import BytePattern.Yaml.Token

/-!
# YAML nodes

The tree of a YAML document. An anchor gives a node a number and an alias refers to one. A new name
gets the number of names before it, and so does a name that is used again; the last node that got a
number is the one that aliases with that number refer to.
-/

namespace BytePattern.Yaml

inductive Node where
  | scalar (anchor : Option Nat) (tag : Option String) (style : ScalarStyle) (text : String)
  | sequence (anchor : Option Nat) (items : List Node)
  | mapping (anchor : Option Nat) (entries : List (Node × Node))
  | alias (anchor : Nat)
deriving Repr

namespace Node

/-- The node where nothing is written. -/
def empty : Node :=
  .scalar none none .plain ""

mutual

/-- The nodes that have an anchor, in the order in which they begin. -/
def anchored : Node → List (Nat × Node)
  | .scalar anchor tag style text => own anchor (.scalar anchor tag style text)
  | .sequence anchor items => own anchor (.sequence anchor items) ++ anchoredItems items
  | .mapping anchor entries => own anchor (.mapping anchor entries) ++ anchoredEntries entries
  | .alias _ => []

def anchoredItems : List Node → List (Nat × Node)
  | [] => []
  | item :: rest => item.anchored ++ anchoredItems rest

def anchoredEntries : List (Node × Node) → List (Nat × Node)
  | [] => []
  | (key, value) :: rest => key.anchored ++ value.anchored ++ anchoredEntries rest

def own (anchor : Option Nat) (node : Node) : List (Nat × Node) :=
  match anchor with
  | some anchor => [(anchor, node)]
  | none => []

end

end Node

/-- What handles of tags stand for. -/
abbrev Handles := List (String × String)

def standardHandles : Handles :=
  [("!", "!"), ("!!", "tag:yaml.org,2002:")]

/-- How far the tokens of a document have been taken, and the numbers of its anchors. -/
structure Composer where
  tokens : List Token
  anchors : List (String × Nat) := []

namespace Composer

def moveTo (composer : Composer) (tokens : List Token) : Composer :=
  { composer with tokens := tokens }

/-- Gives a name a number. -/
def addAnchor (composer : Composer) (name : String) : Nat × Composer :=
  let number := composer.anchors.length
  let others := composer.anchors.filter fun (other, _) => other != name
  (number, { composer with anchors := (name, number) :: others })

structure Properties where
  anchor : Option Nat := none
  tag : Option String := none

def tag? (handles : Handles) (handle suffix : String) : Option String :=
  if handle.isEmpty then some suffix else (handles.lookup handle).map (· ++ suffix)

def readProperties? (handles : Handles) (composer : Composer) : Option (Properties × Composer) :=
  match composer.tokens with
  | .anchor name :: .tag handle suffix :: rest
  | .tag handle suffix :: .anchor name :: rest => do
    let (anchor, composer) := (composer.moveTo rest).addAnchor name
    return (⟨some anchor, some (← tag? handles handle suffix)⟩, composer)
  | .anchor name :: rest =>
    let (anchor, composer) := (composer.moveTo rest).addAnchor name
    some (⟨some anchor, none⟩, composer)
  | .tag handle suffix :: rest => do
    return (⟨none, some (← tag? handles handle suffix)⟩, composer.moveTo rest)
  | _ => some ({}, composer)

/-- A scalar with its properties. A tag that is nothing but an exclamation mark says nothing. -/
def scalar (properties : Properties) (style : ScalarStyle) (text : String) : Node :=
  .scalar properties.anchor (properties.tag.filter (· != "!")) style text

/-- Whether an entry of a block list is empty in front of a token. -/
def endsBlockItem : List Token → Bool
  | .blockEntry :: _ | .blockEnd :: _ => true
  | _ => false

/-- Whether an entry of a list at the column of its mapping is empty in front of a token. -/
def endsIndentlessItem : List Token → Bool
  | .blockEntry :: _ | .key :: _ | .value :: _ | .blockEnd :: _ => true
  | _ => false

/-- Whether a key or value of a block mapping is empty in front of a token. -/
def endsBlockPart : List Token → Bool
  | .key :: _ | .value :: _ | .blockEnd :: _ => true
  | _ => false

/-- Whether the key of a pair inside a flow list is empty in front of a token. -/
def endsFlowPairKey : List Token → Bool
  | .value :: _ | .flowEntry :: _ | .flowSequenceEnd :: _ => true
  | _ => false

/-- Whether the value of a pair inside a flow list is empty in front of a token. -/
def endsFlowPairValue : List Token → Bool
  | .flowEntry :: _ | .flowSequenceEnd :: _ => true
  | _ => false

/-- Whether the key of a flow mapping is empty in front of a token. -/
def endsFlowKey : List Token → Bool
  | .value :: _ | .flowEntry :: _ | .flowMappingEnd :: _ => true
  | _ => false

/-- Whether the value of a flow mapping is empty in front of a token. -/
def endsFlowValue : List Token → Bool
  | .flowEntry :: _ | .flowMappingEnd :: _ => true
  | _ => false

mutual

/-- Reads a node. Block lists and mappings are only allowed where `isBlock` says so, and a list at
the column of its mapping where `isIndentless` does. Every few levels of the recursion take a token,
which bounds their number. -/
def readNode? (handles : Handles) (isBlock isIndentless : Bool) :
    Nat → Composer → Option (Node × Composer)
  | 0, _ => none
  | fuel + 1, composer =>
    match composer.tokens with
    | .alias name :: rest => do
      return (.alias (← composer.anchors.lookup name), composer.moveTo rest)
    | _ => do
      let (properties, composer) ← readProperties? handles composer
      let anchor := properties.anchor
      match composer.tokens with
      | .scalar style text :: rest => some (scalar properties style text, composer.moveTo rest)
      | .flowSequenceStart :: rest => do
        let (items, composer) ← readFlowItems? handles true fuel (composer.moveTo rest)
        return (.sequence anchor items, composer)
      | .flowMappingStart :: rest => do
        let (entries, composer) ← readFlowEntries? handles true fuel (composer.moveTo rest)
        return (.mapping anchor entries, composer)
      | tokens =>
        match isBlock, isIndentless, tokens with
        | _, true, .blockEntry :: _ => do
          let (items, composer) ← readIndentlessItems? handles fuel composer
          return (.sequence anchor items, composer)
        | true, _, .blockSequenceStart :: rest => do
          let (items, composer) ← readBlockItems? handles fuel (composer.moveTo rest)
          return (.sequence anchor items, composer)
        | true, _, .blockMappingStart :: rest => do
          let (entries, composer) ← readBlockEntries? handles fuel (composer.moveTo rest)
          return (.mapping anchor entries, composer)
        | _, _, _ =>
          if anchor.isSome || properties.tag.isSome then
            some (.scalar anchor properties.tag .plain "", composer)
          else none

/-- Reads the entries of a block list up to its end. -/
def readBlockItems? (handles : Handles) : Nat → Composer → Option (List Node × Composer)
  | 0, _ => none
  | fuel + 1, composer =>
    match composer.tokens with
    | .blockEntry :: rest => do
      let composer := composer.moveTo rest
      let (item, composer) ←
        if endsBlockItem rest then some (Node.empty, composer)
        else readNode? handles true false fuel composer
      let (items, composer) ← readBlockItems? handles fuel composer
      return (item :: items, composer)
    | .blockEnd :: rest => some ([], composer.moveTo rest)
    | _ => none

/-- Reads the entries of a list that stands at the column of its mapping. -/
def readIndentlessItems? (handles : Handles) : Nat → Composer → Option (List Node × Composer)
  | 0, _ => none
  | fuel + 1, composer =>
    match composer.tokens with
    | .blockEntry :: rest => do
      let composer := composer.moveTo rest
      let (item, composer) ←
        if endsIndentlessItem rest then some (Node.empty, composer)
        else readNode? handles true false fuel composer
      let (items, composer) ← readIndentlessItems? handles fuel composer
      return (item :: items, composer)
    | _ => some ([], composer)

/-- Reads the entries of a block mapping up to its end. -/
def readBlockEntries? (handles : Handles) :
    Nat → Composer → Option (List (Node × Node) × Composer)
  | 0, _ => none
  | fuel + 1, composer =>
    match composer.tokens with
    | .key :: rest => do
      let composer := composer.moveTo rest
      let (key, composer) ←
        if endsBlockPart rest then some (Node.empty, composer)
        else readNode? handles true true fuel composer
      let (value, composer) ←
        match composer.tokens with
        | .value :: rest =>
          let composer := composer.moveTo rest
          if endsBlockPart rest then some (Node.empty, composer)
          else readNode? handles true true fuel composer
        | _ => some (Node.empty, composer)
      let (entries, composer) ← readBlockEntries? handles fuel composer
      return ((key, value) :: entries, composer)
    | .blockEnd :: rest => some ([], composer.moveTo rest)
    | _ => none

/-- Reads the items of a flow list up to its bracket. A pair counts as a mapping of its own. -/
def readFlowItems? (handles : Handles) (isFirst : Bool) :
    Nat → Composer → Option (List Node × Composer)
  | 0, _ => none
  | fuel + 1, composer =>
    match composer.tokens with
    | .flowSequenceEnd :: rest => some ([], composer.moveTo rest)
    | tokens => do
      let rest ←
        match isFirst, tokens with
        | true, tokens => some tokens
        | false, .flowEntry :: rest => some rest
        | false, _ => none
      let composer := composer.moveTo rest
      match rest with
      | .flowSequenceEnd :: rest => return ([], composer.moveTo rest)
      | .key :: rest => do
        let (pair, composer) ← readFlowPair? handles fuel (composer.moveTo rest)
        let (items, composer) ← readFlowItems? handles false fuel composer
        return (.mapping none [pair] :: items, composer)
      | _ => do
        let (item, composer) ← readNode? handles false false fuel composer
        let (items, composer) ← readFlowItems? handles false fuel composer
        return (item :: items, composer)

/-- Reads a pair inside a flow list. A token in front of which the key is empty is lost. -/
def readFlowPair? (handles : Handles) : Nat → Composer → Option ((Node × Node) × Composer)
  | 0, _ => none
  | fuel + 1, composer => do
    let (key, composer) ←
      if endsFlowPairKey composer.tokens then
        some (Node.empty, composer.moveTo (composer.tokens.drop 1))
      else readNode? handles false false fuel composer
    let (value, composer) ←
      match composer.tokens with
      | .value :: rest =>
        let composer := composer.moveTo rest
        if endsFlowPairValue rest then some (Node.empty, composer)
        else readNode? handles false false fuel composer
      | _ => some (Node.empty, composer)
    return ((key, value), composer)

/-- Reads the entries of a flow mapping up to its brace. A key without a mark has no value. -/
def readFlowEntries? (handles : Handles) (isFirst : Bool) :
    Nat → Composer → Option (List (Node × Node) × Composer)
  | 0, _ => none
  | fuel + 1, composer =>
    match composer.tokens with
    | .flowMappingEnd :: rest => some ([], composer.moveTo rest)
    | tokens => do
      let rest ←
        match isFirst, tokens with
        | true, tokens => some tokens
        | false, .flowEntry :: rest => some rest
        | false, _ => none
      let composer := composer.moveTo rest
      match rest with
      | .flowMappingEnd :: rest => return ([], composer.moveTo rest)
      | .key :: rest => do
        let composer := composer.moveTo rest
        let (key, composer) ←
          if endsFlowKey rest then some (Node.empty, composer)
          else readNode? handles false false fuel composer
        let (value, composer) ←
          match composer.tokens with
          | .value :: rest =>
            let composer := composer.moveTo rest
            if endsFlowValue rest then some (Node.empty, composer)
            else readNode? handles false false fuel composer
          | _ => some (Node.empty, composer)
        let (entries, composer) ← readFlowEntries? handles false fuel composer
        return ((key, value) :: entries, composer)
      | _ => do
        let (key, composer) ← readNode? handles false false fuel composer
        let (entries, composer) ← readFlowEntries? handles false fuel composer
        return ((key, Node.empty) :: entries, composer)

end

end Composer

namespace Document

/-- Takes the directives in front of a document. There is at most one version, which is 1.1 or 1.2,
and one meaning of every handle. -/
def readDirectives? (hasVersion : Bool) (handles : Handles) :
    List Token → Option (Handles × List Token)
  | .versionDirective major minor :: rest =>
    if !hasVersion && major == 1 && (minor == 1 || minor == 2) then
      readDirectives? true handles rest
    else none
  | .tagDirective handle expansion :: rest =>
    if (handles.lookup handle).isSome then none
    else readDirectives? hasVersion (handles ++ [(handle, expansion)]) rest
  | rest => some (handles, rest)

/-- Whether a document is empty in front of a token. -/
def endsDocument : List Token → Bool
  | [] => true
  | .versionDirective _ _ :: _ | .tagDirective _ _ :: _ | .documentStart :: _ | .documentEnd :: _ =>
    true
  | _ => false

/-- The root of the only document of some tokens; a text without any tokens is an empty node. -/
def read? (tokens : List Token) : Option Node := do
  let fuel := 4 * tokens.length + 4
  let (root, rest) ←
    match tokens with
    | [] => some (Node.empty, [])
    | .versionDirective _ _ :: _ | .tagDirective _ _ :: _ | .documentStart :: _ => do
      match ← readDirectives? false [] tokens with
      | (handles, .documentStart :: rest) =>
        if endsDocument rest then some (Node.empty, rest)
        else do
          let (root, composer) ←
            Composer.readNode? (handles ++ standardHandles) true false fuel { tokens := rest }
          some (root, composer.tokens)
      | _ => none
    | tokens => do
      let (root, composer) ←
        Composer.readNode? standardHandles true false fuel { tokens := tokens }
      some (root, composer.tokens)
  if (rest.dropWhile (· == .documentEnd)).isEmpty then some root else none

end Document

end BytePattern.Yaml
