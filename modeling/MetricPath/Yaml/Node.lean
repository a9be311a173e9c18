import MetricPath.Fields
import MetricPath.Yaml.Token

/-!
# YAML nodes

A document is a tree of scalars, sequences and mappings.  Nodes may carry a tag, and a node that
an anchor names may occur again as an alias; `Node.expand` replaces the aliases.

A text holds at most one document.  An empty text holds none, which differs from a document that
is an empty scalar.
-/

namespace MetricPath.Yaml

/-- A node of a document. -/
inductive Node where
  | scalar (tag? : Option String) (plain : Bool) (text : String)
  | sequence (tag? : Option String) (items : List Node)
  | mapping (tag? : Option String) (pairs : List (Node × Node))
  | anchored (name : String) (node : Node)
  | alias (name : String)
deriving Repr

instance : Inhabited Node := ⟨.alias ""⟩

namespace Node

/-! ## Reading -/

/-- The beginnings that tag handles stand for. -/
abbrev TagPrefixes := List (List Char × List Char)

/-- The handles that need no directive. -/
def corePrefixes : TagPrefixes :=
  [(['!'], ['!']), (['!', '!'], "tag:yaml.org,2002:".toList)]

/-- The tag of a handle and a suffix; without a handle the suffix is the whole tag. -/
def resolveTag? (prefixes : TagPrefixes) (handle suffix : List Char) : Option String :=
  if handle.isEmpty then some (String.ofList suffix)
  else (prefixes.lookup handle).map fun start => String.ofList (start ++ suffix)

/-- What is written before a node. -/
structure Properties where
  anchor? : Option String
  tag? : Option String

/-- Whether nothing is written. -/
def Properties.isEmpty (p : Properties) : Bool := p.anchor?.isNone && p.tag?.isNone

/-- A node with the given properties. -/
def Properties.on (p : Properties) (make : Option String → Node) : Node :=
  match p.anchor? with
  | some name => .anchored name (make p.tag?)
  | none => make p.tag?

/-- The properties that tokens begin with: an anchor and a tag in either order. -/
def readProperties (prefixes : TagPrefixes) :
    List Token → Option (Properties × List Token)
  | .anchor name :: .tag handle suffix :: ts => do
    return (⟨some (String.ofList name), some (← resolveTag? prefixes handle suffix)⟩, ts)
  | .tag handle suffix :: .anchor name :: ts => do
    return (⟨some (String.ofList name), some (← resolveTag? prefixes handle suffix)⟩, ts)
  | .anchor name :: ts => some (⟨some (String.ofList name), none⟩, ts)
  | .tag handle suffix :: ts => do
    return (⟨none, some (← resolveTag? prefixes handle suffix)⟩, ts)
  | ts => some (⟨none, none⟩, ts)

/-- The node where nothing is written. -/
def absent : Node := .scalar none true ""

/-- Where a node stands. -/
inductive Position where
  /-- In a flow collection. -/
  | flow
  /-- In a block sequence, or at the top. -/
  | block
  /-- In a block mapping, where a sequence need not be indented. -/
  | mapping
deriving DecidableEq, Repr

/-- Whether the first token is one of those given. -/
def beginsWithOne (ts : List Token) (given : List Token) : Bool := ts.head?.any (· ∈ given)

mutual

/-- Read a node. -/
def readNode (prefixes : TagPrefixes) :
    (bound : Nat) → Position → List Token → Option (Node × List Token)
  | 0, _, _ => none
  | _, _, .alias name :: ts => some (.alias (String.ofList name), ts)
  | bound + 1, position, ts => do
    let (properties, ts) ← readProperties prefixes ts
    match ts with
    | .scalar plain text :: ts =>
      return (properties.on fun tag? => .scalar tag? plain (String.ofList text), ts)
    | .flowSequence :: ts => do
      let (items, ts) ← readFlowItems prefixes bound true ts
      return (properties.on fun tag? => .sequence tag? items, ts)
    | .flowMapping :: ts => do
      let (pairs, ts) ← readFlowPairs prefixes bound true ts
      return (properties.on fun tag? => .mapping tag? pairs, ts)
    | ts =>
      match position, ts with
      | .mapping, .entry :: _ => do
        let (items, ts) ← readEntries prefixes bound ts
        return (properties.on fun tag? => .sequence tag? items, ts)
      | .block, .blockSequence :: ts | .mapping, .blockSequence :: ts => do
        match ← readEntries prefixes bound ts with
        | (items, .blockEnd :: ts) => return (properties.on fun tag? => .sequence tag? items, ts)
        | _ => none
      | .block, .blockMapping :: ts | .mapping, .blockMapping :: ts => do
        let (pairs, ts) ← readPairs prefixes bound ts
        return (properties.on fun tag? => .mapping tag? pairs, ts)
      | _, ts =>
        if properties.isEmpty then none
        else return (properties.on fun tag? => .scalar tag? true "", ts)

/-- Read a node, or the absent one before one of the given tokens. -/
def readOptional (prefixes : TagPrefixes) :
    (bound : Nat) → Position → (closing : List Token) → List Token → Option (Node × List Token)
  | 0, _, _, _ => none
  | bound + 1, position, closing, ts =>
    if beginsWithOne ts closing then some (absent, ts) else readNode prefixes bound position ts

/-- Read the entries of a block sequence. -/
def readEntries (prefixes : TagPrefixes) :
    (bound : Nat) → List Token → Option (List Node × List Token)
  | 0, _ => none
  | bound + 1, .entry :: ts => do
    let (item, ts) ← readOptional prefixes bound .block [.entry, .key, .value, .blockEnd] ts
    let (items, ts) ← readEntries prefixes bound ts
    return (item :: items, ts)
  | _, ts => some ([], ts)

/-- Read the pairs of a block mapping and its end. -/
def readPairs (prefixes : TagPrefixes) :
    (bound : Nat) → List Token → Option (List (Node × Node) × List Token)
  | 0, _ => none
  | bound + 1, .key :: ts => do
    let closing := [.key, .value, .blockEnd]
    let (key, ts) ← readOptional prefixes bound .mapping closing ts
    let (value, ts) ←
      match ts with
      | .value :: ts => readOptional prefixes bound .mapping closing ts
      | ts => some (absent, ts)
    let (pairs, ts) ← readPairs prefixes bound ts
    return ((key, value) :: pairs, ts)
  | _, .blockEnd :: ts => some ([], ts)
  | _, _ => none

/-- Read the value of a pair of a flow collection, if there is one. -/
def readFlowValue (prefixes : TagPrefixes) :
    (bound : Nat) → (closing : List Token) → List Token → Option (Node × List Token)
  | 0, _, _ => none
  | bound + 1, closing, .value :: ts => readOptional prefixes bound .flow closing ts
  | _, _, ts => some (absent, ts)

/-- Read the items of a flow sequence and its end.  An item may be a single pair. -/
def readFlowItems (prefixes : TagPrefixes) :
    (bound : Nat) → (first : Bool) → List Token → Option (List Node × List Token)
  | 0, _, _ => none
  | _, _, .flowSequenceEnd :: ts => some ([], ts)
  | bound + 1, first, ts => do
    let ts ←
      match first, ts with
      | true, ts => some ts
      | false, .separator :: ts => some ts
      | false, _ => none
    match ts with
    | .flowSequenceEnd :: ts => return ([], ts)
    | .key :: ts => do
      let closing := [.separator, .flowSequenceEnd]
      let (key, ts) ← readNode prefixes bound .flow ts
      let (value, ts) ← readFlowValue prefixes bound closing ts
      let (items, ts) ← readFlowItems prefixes bound false ts
      return (.mapping none [(key, value)] :: items, ts)
    | ts => do
      let (item, ts) ← readNode prefixes bound .flow ts
      let (items, ts) ← readFlowItems prefixes bound false ts
      return (item :: items, ts)

/-- Read the pairs of a flow mapping and its end. -/
def readFlowPairs (prefixes : TagPrefixes) :
    (bound : Nat) → (first : Bool) → List Token → Option (List (Node × Node) × List Token)
  | 0, _, _ => none
  | _, _, .flowMappingEnd :: ts => some ([], ts)
  | bound + 1, first, ts => do
    let ts ←
      match first, ts with
      | true, ts => some ts
      | false, .separator :: ts => some ts
      | false, _ => none
    match ts with
    | .flowMappingEnd :: ts => return ([], ts)
    | .key :: ts => do
      let closing := [.separator, .flowMappingEnd]
      let (key, ts) ← readOptional prefixes bound .flow (.value :: closing) ts
      let (value, ts) ← readFlowValue prefixes bound closing ts
      let (pairs, ts) ← readFlowPairs prefixes bound false ts
      return ((key, value) :: pairs, ts)
    | ts => do
      let (key, ts) ← readNode prefixes bound .flow ts
      let (pairs, ts) ← readFlowPairs prefixes bound false ts
      return ((key, absent) :: pairs, ts)

end

/-! ## Documents -/

/-- What the directives before a document say. -/
structure Directives where
  hasVersion : Bool
  prefixes : TagPrefixes

/-- Read the directives before a document.  None is given twice, and the version is 1.1 or 1.2. -/
def readDirectives (d : Directives) : List Token → Option (Directives × List Token)
  | .version major minor :: ts =>
    if d.hasVersion || major ≠ 1 || !(minor = 1 || minor = 2) then none
    else readDirectives { d with hasVersion := true } ts
  | .tagPrefix handle content :: ts =>
    if (d.prefixes.lookup handle).isSome then none
    else readDirectives { d with prefixes := (handle, content) :: d.prefixes } ts
  | ts => some (d, ts)

/-- The document that tokens make, if there is one. -/
def ofTokens? (ts : List Token) : Option (Option Node) := do
  let (directives, rest) ← readDirectives ⟨false, []⟩ ts
  let isBare := directives.prefixes.isEmpty && !directives.hasVersion
  let prefixes := directives.prefixes ++ corePrefixes
  let bound := 4 * ts.length + 4
  match rest with
  | [] => if isBare then return none else none
  | .documentStart :: ts => do
    let read :=
      if beginsWithOne ts [.documentStart, .documentEnd] || ts.isEmpty then some (absent, ts)
      else readNode prefixes bound .block ts
    let (node, ts) ← read
    if ts.all (· = .documentEnd) then return some node else none
  | ts =>
    if !isBare then none
    else do
      let (node, ts) ← readNode prefixes bound .block ts
      if ts.all (· = .documentEnd) then return some node else none

/-- The document that a text holds, if there is one; `none` if the text is not YAML. -/
def read? (cs : List Char) : Option (Option Node) := do
  ofTokens? (← Token.scan (← normalize? cs))

/-! ## Aliases -/

/-- The nodes that anchors name, the latest first. -/
abbrev Anchors := List (String × Node)

mutual

/-- Replace the aliases of a node by the nodes they stand for, and return the anchors after it.
An alias stands for the latest node of its name that has ended before it. -/
def expand (anchors : Anchors) : Node → Option (Node × Anchors)
  | .scalar tag? plain text => some (.scalar tag? plain text, anchors)
  | .sequence tag? items => do
    let (items, anchors) ← expandItems anchors items
    return (.sequence tag? items, anchors)
  | .mapping tag? pairs => do
    let (pairs, anchors) ← expandPairs anchors pairs
    return (.mapping tag? pairs, anchors)
  | .anchored name node => do
    let (node, anchors) ← expand (anchors.filter fun a => a.1 ≠ name) node
    if (anchors.lookup name).isSome then return (node, anchors)
    else return (node, (name, node) :: anchors)
  | .alias name => do return (← anchors.lookup name, anchors)

/-- Replace the aliases of nodes. -/
def expandItems (anchors : Anchors) : List Node → Option (List Node × Anchors)
  | [] => some ([], anchors)
  | n :: ns => do
    let (n, anchors) ← expand anchors n
    let (ns, anchors) ← expandItems anchors ns
    return (n :: ns, anchors)

/-- Replace the aliases of keys and values. -/
def expandPairs (anchors : Anchors) : List (Node × Node) → Option (List (Node × Node) × Anchors)
  | [] => some ([], anchors)
  | (k, v) :: pairs => do
    let (k, anchors) ← expand anchors k
    let (v, anchors) ← expand anchors v
    let (pairs, anchors) ← expandPairs anchors pairs
    return ((k, v) :: pairs, anchors)

end

mutual

/-- Whether collections are nested at most so deeply. -/
def isWithinDepth : (depth : Nat) → Node → Bool
  | _, .scalar .. => true
  | _, .alias _ => true
  | depth, .anchored _ node => isWithinDepth depth node
  | 0, .sequence .. => false
  | 0, .mapping .. => false
  | depth + 1, .sequence _ items => areWithinDepth depth items
  | depth + 1, .mapping _ pairs => pairsAreWithinDepth depth pairs

/-- Whether the collections of nodes are nested at most so deeply. -/
def areWithinDepth (depth : Nat) : List Node → Bool
  | [] => true
  | n :: ns => isWithinDepth depth n && areWithinDepth depth ns

/-- Whether the collections of keys and values are nested at most so deeply. -/
def pairsAreWithinDepth (depth : Nat) : List (Node × Node) → Bool
  | [] => true
  | (k, v) :: pairs =>
    isWithinDepth depth k && isWithinDepth depth v && pairsAreWithinDepth depth pairs

end

/-- How deeply collections may be nested. -/
def greatestDepth : Nat := 128

/-- The document that a text holds, without aliases. -/
def load? (cs : List Char) : Option (Option Node) := do
  match ← read? cs with
  | none => return none
  | some node => do
    let (node, _) ← node.expand []
    if node.isWithinDepth greatestDepth then return some node else none

end Node

end MetricPath.Yaml
