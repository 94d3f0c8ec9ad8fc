import HostValue.Yaml.Layout
import HostValue.Yaml.Text

/-!
# Nodes

The tree that the tokens of a document make: scalars, sequences and mappings, with their tags expanded
and their anchors and aliases by name. The collections of the two styles, indented and in brackets, make
the same nodes.
-/

namespace HostValue.Yaml

inductive Node where
  | alias (name : List Char)
  | scalar (anchor : Option (List Char)) (tag : Option (List Char)) (isPlain : Bool)
      (text : List Char)
  | sequence (anchor : Option (List Char)) (items : List Node)
  | mapping (anchor : Option (List Char)) (entries : List (Node × Node))

namespace Node

def empty : Node :=
  .scalar none none true []

abbrev Handles := List (List Char × List Char)

def standardHandles : Handles :=
  [(['!'], ['!']), (['!', '!'], "tag:yaml.org,2002:".toList)]

def expandTag (handles : Handles) (handle suffix : List Char) : Option (List Char) :=
  if handle.isEmpty then some suffix else (handles.lookup handle).map (· ++ suffix)

structure Properties where
  anchor : Option (List Char)
  tag : Option (List Char)

def readAnchor : List Token → Option (List Char) × List Token
  | .anchor name :: rest => (some name, rest)
  | tokens => (none, tokens)

def readTag (handles : Handles) : List Token → Option (Option (List Char) × List Token)
  | .tag handle suffix :: rest => (expandTag handles handle suffix).map fun tag => (some tag, rest)
  | tokens => some (none, tokens)

def readProperties (handles : Handles) (tokens : List Token) :
    Option (Properties × List Token) := do
  let (first, tokens) := readAnchor tokens
  let (tag, tokens) ← readTag handles tokens
  let (second, tokens) := if first.isNone && tag.isSome then readAnchor tokens else (none, tokens)
  return (⟨first.or second, tag⟩, tokens)

def endsBlockEntry : List Token → Bool
  | .key :: _ | .value :: _ | .blockEnd :: _ => true
  | _ => false

inductive Place where
  | flow
  /-- At an item of a block sequence, or alone in a document. -/
  | block
  /-- At a key or a value of a block mapping, where the items of a sequence need not be indented. -/
  | blockEntry
  deriving DecidableEq

def readUnwritten (properties : Properties) (tokens : List Token) : Option (Node × List Token) :=
  if properties.anchor.isSome || properties.tag.isSome then
    some (.scalar properties.anchor properties.tag true [], tokens)
  else
    none

mutual

def read (handles : Handles) : Nat → Place → List Token → Option (Node × List Token)
  | 0, _, _ => none
  | _ + 1, _, .alias name :: rest => some (.alias name, rest)
  | fuel + 1, place, tokens => do
    let (properties, tokens) ← readProperties handles tokens
    match tokens with
    | .scalar isPlain text :: rest =>
      return (.scalar properties.anchor properties.tag isPlain text, rest)
    | .flowSequence :: rest => do
      let (items, rest) ← readFlowItems handles fuel true rest
      return (.sequence properties.anchor items, rest)
    | .flowMapping :: rest => do
      let (entries, rest) ← readFlowEntries handles fuel true rest
      return (.mapping properties.anchor entries, rest)
    | .blockSequence :: rest =>
      if place = .flow then readUnwritten properties tokens
      else do
        let (items, rest) ← readBlockItems handles fuel rest
        return (.sequence properties.anchor items, rest)
    | .blockMapping :: rest =>
      if place = .flow then readUnwritten properties tokens
      else do
        let (entries, rest) ← readBlockEntries handles fuel rest
        return (.mapping properties.anchor entries, rest)
    | .item :: _ =>
      if place = .blockEntry then do
        let (items, rest) ← readUnindentedItems handles fuel tokens
        return (.sequence properties.anchor items, rest)
      else readUnwritten properties tokens
    | _ => readUnwritten properties tokens

def readBlockItems (handles : Handles) : Nat → List Token → Option (List Node × List Token)
  | 0, _ => none
  | _ + 1, .blockEnd :: rest => some ([], rest)
  | fuel + 1, .item :: rest => do
    let (item, rest) ← match rest with
      | .item :: _ | .blockEnd :: _ => some (.empty, rest)
      | _ => read handles fuel .block rest
    let (items, rest) ← readBlockItems handles fuel rest
    return (item :: items, rest)
  | _ + 1, _ => none

/-- Reads the items of a sequence at the column of the mapping around it. -/
def readUnindentedItems (handles : Handles) : Nat → List Token → Option (List Node × List Token)
  | 0, _ => none
  | fuel + 1, .item :: rest => do
    let (item, rest) ← match rest with
      | .item :: _ => some (.empty, rest)
      | _ => if endsBlockEntry rest then some (.empty, rest) else read handles fuel .block rest
    let (items, rest) ← readUnindentedItems handles fuel rest
    return (item :: items, rest)
  | _ + 1, tokens => some ([], tokens)

def readBlockEntries (handles : Handles) :
    Nat → List Token → Option (List (Node × Node) × List Token)
  | 0, _ => none
  | _ + 1, .blockEnd :: rest => some ([], rest)
  | fuel + 1, .key :: rest => do
    let (key, rest) ←
      if endsBlockEntry rest then some (.empty, rest) else read handles fuel .blockEntry rest
    let (value, rest) ← match rest with
      | .value :: rest =>
        if endsBlockEntry rest then some (.empty, rest) else read handles fuel .blockEntry rest
      | _ => some (.empty, rest)
    let (entries, rest) ← readBlockEntries handles fuel rest
    return ((key, value) :: entries, rest)
  | _ + 1, _ => none

def readFlowItems (handles : Handles) (fuel : Nat) (isFirst : Bool) (tokens : List Token) :
    Option (List Node × List Token) :=
  match fuel with
  | 0 => none
  | fuel + 1 => do
    match tokens with
    | .flowSequenceEnd :: rest => return ([], rest)
    | _ =>
      let tokens ← if isFirst then some tokens else match tokens with
        | .comma :: rest => some rest
        | _ => none
      match tokens with
      | .flowSequenceEnd :: rest => return ([], rest)
      | .key :: rest =>
        let (key, rest) ← match rest with
          | .value :: rest | .comma :: rest | .flowSequenceEnd :: rest => some (.empty, rest)
          | _ => read handles fuel .flow rest
        let (value, rest) ← match rest with
          | .value :: .comma :: rest => some (.empty, .comma :: rest)
          | .value :: .flowSequenceEnd :: rest => some (.empty, .flowSequenceEnd :: rest)
          | .value :: rest => read handles fuel .flow rest
          | _ => some (.empty, rest)
        let (items, rest) ← readFlowItems handles fuel false rest
        return (.mapping none [(key, value)] :: items, rest)
      | _ =>
        let (item, rest) ← read handles fuel .flow tokens
        let (items, rest) ← readFlowItems handles fuel false rest
        return (item :: items, rest)

def readFlowEntries (handles : Handles) (fuel : Nat) (isFirst : Bool) (tokens : List Token) :
    Option (List (Node × Node) × List Token) :=
  match fuel with
  | 0 => none
  | fuel + 1 => do
    match tokens with
    | .flowMappingEnd :: rest => return ([], rest)
    | _ =>
      let tokens ← if isFirst then some tokens else match tokens with
        | .comma :: rest => some rest
        | _ => none
      match tokens with
      | .flowMappingEnd :: rest => return ([], rest)
      | .key :: rest =>
        let (key, rest) ← match rest with
          | .value :: _ | .comma :: _ | .flowMappingEnd :: _ => some (.empty, rest)
          | _ => read handles fuel .flow rest
        let (value, rest) ← match rest with
          | .value :: .comma :: rest => some (.empty, .comma :: rest)
          | .value :: .flowMappingEnd :: rest => some (.empty, .flowMappingEnd :: rest)
          | .value :: rest => read handles fuel .flow rest
          | _ => some (.empty, rest)
        let (entries, rest) ← readFlowEntries handles fuel false rest
        return ((key, value) :: entries, rest)
      | _ =>
        let (key, rest) ← read handles fuel .flow tokens
        let (entries, rest) ← readFlowEntries handles fuel false rest
        return ((key, .empty) :: entries, rest)

end

end Node

/-! ### Documents

A text holds at most one document: directives, if any, and then a node. A text without a document
means what an empty one does. -/

/-- Reads the directives before a document, with the handles they gave so far. A version comes once
and is one that is known; a handle is given once. -/
def readDirectives (hasVersion : Bool) (handles : Node.Handles) :
    List Token → Option (Node.Handles × List Token)
  | .version major minor :: rest =>
    if hasVersion || major != 1 || !(minor == 1 || minor == 2) then none
    else readDirectives true handles rest
  | .handle name expansion :: rest =>
    if (handles.lookup name).isSome then none
    else readDirectives hasVersion (handles ++ [(name, expansion)]) rest
  | tokens => some (handles ++ Node.standardHandles, tokens)

def endsContent : List Token → Bool
  | [] => true
  | .version .. :: _ | .handle .. :: _ | .documentStart :: _ | .documentEnd :: _ => true
  | _ => false

def isExplicit : List Token → Bool
  | .version .. :: _ | .handle .. :: _ | .documentStart :: _ => true
  | _ => false

/-- Reads the node of a document, after which no further document comes. Every token takes at most
two steps. -/
def readContent (handles : Node.Handles) (tokens : List Token) : Option Node :=
  match Node.read handles (2 * tokens.length + 2) .block tokens with
  | some (node, rest) => if rest.all (· == .documentEnd) then some node else none
  | none => none

def Node.ofTokens? (tokens : List Token) : Option Node :=
  if tokens.isEmpty then
    some .empty
  else if isExplicit tokens then
    match readDirectives false [] tokens with
    | some (handles, .documentStart :: rest) =>
      if endsContent rest then
        if rest.all (· == .documentEnd) then some .empty else none
      else
        readContent handles rest
    | _ => none
  else
    readContent standardHandles tokens

def Node.ofText? (text : List Char) : Option Node :=
  match tokens? text with
  | some tokens => Node.ofTokens? tokens
  | none => none

end HostValue.Yaml
