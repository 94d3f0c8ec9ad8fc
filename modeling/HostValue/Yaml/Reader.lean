import HostValue.Yaml.Node
import HostValue.Yaml.Scalar

/-!
# Reading YAML text

The value of the document in a text: its node with the aliases followed, as a tree of the data model.
Collections may lie at most 128 deep, those behind aliases included, and aliases are followed at most a
hundred times for every mark of the document.
-/

namespace HostValue.Yaml

/-! ### Anchors and aliases

An alias stands for the node with its anchor. Anchors are told apart by numbers: the number of an anchor
is how many names were anchored before it, and an alias takes the number that its name has where it
stands. A name that is anchored anew takes a new number and adds none to the count, so the next name
takes the same number, which from then on is that of the last node anchored with it. -/

/-- A node in which aliases are the numbers of anchors. -/
inductive Linked where
  | reference (number : Nat)
  | scalar (tag : Option (List Char)) (isPlain : Bool) (text : List Char)
  | sequence (items : List Linked)
  | mapping (entries : List (Linked × Linked))

structure Anchors where
  numbers : List (List Char × Nat)
  /-- The numbers with the nodes last anchored with them, by their order among all anchored nodes;
  the latest first. -/
  holders : List (Nat × Nat)
  count : Nat
  nodes : List (Nat × Linked)

namespace Anchors

def empty : Anchors :=
  ⟨[], [], 0, []⟩

def add (anchors : Anchors) (name : List Char) : Anchors :=
  let number := anchors.numbers.length
  { anchors with
    numbers := (name, number) :: anchors.numbers.filter (·.1 != name)
    holders := (number, anchors.count) :: anchors.holders
    count := anchors.count + 1 }

def addIfNamed (anchors : Anchors) (name : Option (List Char)) : Anchors :=
  name.elim anchors anchors.add

/-- The anchors after a node with a name, if it has one, which was the anchored node of a given
order. -/
def close (anchors : Anchors) (name : Option (List Char)) (order : Nat) (node : Linked) : Anchors :=
  if name.isSome then { anchors with nodes := (order, node) :: anchors.nodes } else anchors

def target? (anchors : Anchors) (number : Nat) : Option Linked := do
  anchors.nodes.lookup (← anchors.holders.lookup number)

end Anchors

mutual

def Node.link (anchors : Anchors) : Node → Option (Linked × Anchors)
  | .alias name => (anchors.numbers.lookup name).map fun number => (.reference number, anchors)
  | .scalar anchor tag isPlain text =>
    let linked := .scalar tag isPlain text
    some (linked, (anchors.addIfNamed anchor).close anchor anchors.count linked)
  | .sequence anchor items =>
    match linkItems (anchors.addIfNamed anchor) items with
    | some (items, later) =>
      some (.sequence items, later.close anchor anchors.count (.sequence items))
    | none => none
  | .mapping anchor entries =>
    match linkEntries (anchors.addIfNamed anchor) entries with
    | some (entries, later) =>
      some (.mapping entries, later.close anchor anchors.count (.mapping entries))
    | none => none
termination_by structural node => node

def linkItems (anchors : Anchors) : List Node → Option (List Linked × Anchors)
  | [] => some ([], anchors)
  | item :: rest =>
    match item.link anchors with
    | none => none
    | some (item, anchors) =>
      match linkItems anchors rest with
      | some (items, anchors) => some (item :: items, anchors)
      | none => none
termination_by structural items => items

def linkEntries (anchors : Anchors) :
    List (Node × Node) → Option (List (Linked × Linked) × Anchors)
  | [] => some ([], anchors)
  | (key, value) :: rest =>
    match key.link anchors with
    | none => none
    | some (key, anchors) =>
      match value.link anchors with
      | none => none
      | some (value, anchors) =>
        match linkEntries anchors rest with
        | some (entries, anchors) => some ((key, value) :: entries, anchors)
        | none => none
termination_by structural entries => entries

end

mutual

/-- The number of marks that a node takes: one for a scalar or an alias, two around a collection. -/
def Linked.size : Linked → Nat
  | .reference _ => 1
  | .scalar .. => 1
  | .sequence items => 2 + sizeItems items
  | .mapping entries => 2 + sizeEntries entries
termination_by structural node => node

def sizeItems : List Linked → Nat
  | [] => 0
  | item :: rest => item.size + sizeItems rest
termination_by structural items => items

def sizeEntries : List (Linked × Linked) → Nat
  | [] => 0
  | (key, value) :: rest => key.size + value.size + sizeEntries rest
termination_by structural entries => entries

end

/-! ### Values -/

def maxDepth : Nat :=
  128

/-- How often aliases may be followed for every mark of a document. -/
def followsPerMark : Nat :=
  100

/-- A computation that may follow aliases as often as its state says. -/
abbrev Following := StateT Nat Option

def Linked.follow (anchors : Anchors) : Linked → Following Linked
  | .reference number => do
    let left ← get
    if left = 0 then
      failure
    else
      set (left - 1)
      anchors.target? number
  | node => return node

def Linked.toKey (anchors : Anchors) (node : Linked) : Following DataNode := do
  match ← node.follow anchors with
  | .scalar _ _ text => return .text (String.ofList text)
  | _ => failure

def Linked.toNode (anchors : Anchors) : Nat → Linked → Following DataNode
  | depth, node => do
    match ← node.follow anchors, depth with
    | .scalar tag isPlain text, _ => scalarMeaning tag isPlain text
    | .sequence items, depth + 1 =>
      return .sequence (← items.mapM fun item => item.toNode anchors depth)
    | .mapping entries, depth + 1 =>
      return .map (← entries.mapM fun (key, value) => do
        return (← key.toKey anchors, ← value.toNode anchors depth))
    | _, _ => failure

def readTree? (text : List Char) : Option DataNode := do
  let node ← Node.ofText? text
  let (linked, anchors) ← node.link .empty
  (linked.toNode anchors maxDepth).run' (followsPerMark * linked.size)

end HostValue.Yaml
