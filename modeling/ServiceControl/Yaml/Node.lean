import ServiceControl.Yaml.Token

/-!
# YAML documents

The tokens of a text are grouped into documents of nodes. Anchors number the nodes that aliases
refer to: an anchor gets the number of names known when it is met, and an alias means the node that
took its number last. A text that is read here holds at most one document.
-/

namespace ServiceControl.Yaml

/-- A node of a document. Tags are written out in full. -/
inductive Node where
  | alias (number : Nat)
  | scalar (tag : Option String) (style : Style) (text : String)
  | sequence (tag : Option String) (items : List Node)
  | mapping (tag : Option String) (entries : List (Node × Node))
  deriving Repr, Inhabited

/-- A node with an anchor: its number, and how many events of the document come before it. -/
structure Anchored where
  number : Nat
  start : Nat
  node : Node
  deriving Repr

/-- A document: its root and the nodes that aliases may mean. -/
structure Document where
  root : Node
  anchored : List Anchored := []
  /-- The number of scalars and aliases, and of starts and ends of collections. -/
  events : Nat := 0
  deriving Repr

/-- The node that an alias means. -/
def Document.target? (d : Document) (number : Nat) : Option Node :=
  (d.anchored.foldl (fun best a =>
    if a.number ≠ number then best
    else match best with
      | some b => if b.start < a.start then some a else best
      | none => some a) (none : Option Anchored)).map (·.node)

/-- The state of grouping tokens. -/
structure Grouping where
  tokens : List Token
  /-- Tag handles and what they stand for. -/
  handles : List (String × String) := []
  /-- Names of anchors with their numbers, one entry a name. -/
  names : List (String × Nat) := []
  anchored : List Anchored := []
  events : Nat := 0

/-- Reading from the tokens that are left. -/
abbrev Group := StateT Grouping Option

namespace Group

/-- The next token, if any is left. -/
def peek : Group (Option Token) := return (← get).tokens.head?

/-- Goes past the next token. -/
def skip : Group Unit := modify fun s => { s with tokens := s.tokens.tail }

/-- Counts events. -/
def count (n : Nat) : Group Unit := modify fun s => { s with events := s.events + n }

/-- Goes past the next token if it is the given one. -/
def accept (t : Token) : Group Bool := do
  if (← peek) = some t then
    skip
    return true
  else return false

/-- Whether the next token is one of some. -/
def ahead (ts : List Token) : Group Bool := return (← peek).any (· ∈ ts)

/-- Gives a number to an anchor. -/
def define (name : String) : Group Nat := do
  let s ← get
  let number := s.names.length
  set { s with names :=
    if s.names.any fun (e : String × Nat) => e.1 == name then
      s.names.map fun (e : String × Nat) => if e.1 == name then (name, number) else e
    else s.names ++ [(name, number)] }
  return number

/-- Keeps a node for the aliases that mean it. -/
def keep (anchor : Option (Nat × Nat)) (node : Node) : Group Node := do
  match anchor with
  | some (number, start) =>
    modify fun s => { s with anchored := ⟨number, start, node⟩ :: s.anchored }
  | none => pure ()
  return node

/-- The anchor and the tag in front of a node, in either order. -/
def properties : Group (Option String × Option (String × String)) := do
  match ← peek with
  | some (.anchor name) => do
    skip
    match ← peek with
    | some (.tag h s) => do skip; return (some name, some (h, s))
    | _ => return (some name, none)
  | some (.tag h s) => do
    skip
    match ← peek with
    | some (.anchor name) => do skip; return (some name, some (h, s))
    | _ => return (none, some (h, s))
  | _ => return (none, none)

/-- The full form of a tag; its handle must be known. -/
def resolveTag : Option (String × String) → Group (Option String)
  | none => return none
  | some (handle, suffix) => do
    if handle.isEmpty then return some suffix
    match (← get).handles.find? (·.1 == handle) with
    | some (_, start) => return some (start ++ suffix)
    | none => failure

/-- A scalar without content where a node was left out. -/
def empty : Group Node := do
  count 1
  return .scalar none .plain ""

mutual

/-- A node; inside a block mapping a sequence of items need not be indented. -/
def node : Nat → Bool → Bool → Group Node
  | 0, _, _ => failure
  | fuel + 1, block, unindented => do
    if let some (.alias name) ← peek then
      skip
      count 1
      match (← get).names.find? (·.1 == name) with
      | some (_, number) => return .alias number
      | none => failure
    else
      let (name, tag) ← properties
      let tag ← resolveTag tag
      let start := (← get).events
      let anchor ← name.mapM fun n => return (← define n, start)
      match ← peek with
      | some (.scalar text style) =>
        skip
        count 1
        keep anchor (.scalar tag style text)
      | some .blockEntry =>
        if unindented then
          count 2
          keep anchor (.sequence tag (← unindentedItems fuel))
        else leaf anchor name tag
      | some .flowSequenceStart =>
        skip
        count 2
        keep anchor (.sequence tag (← flowItems fuel true))
      | some .flowMappingStart =>
        skip
        count 2
        keep anchor (.mapping tag (← flowEntries fuel true))
      | some .blockSequenceStart =>
        if block then
          skip
          count 2
          keep anchor (.sequence tag (← blockItems fuel))
        else leaf anchor name tag
      | some .blockMappingStart =>
        if block then
          skip
          count 2
          keep anchor (.mapping tag (← blockEntries fuel))
        else leaf anchor name tag
      | _ => leaf anchor name tag
where
  /-- A node that has properties but no content. -/
  leaf (anchor : Option (Nat × Nat)) (name tag : Option String) : Group Node := do
    if name.isNone && tag.isNone then failure
    count 1
    keep anchor (.scalar tag .plain "")

/-- The items of a block sequence. -/
def blockItems : Nat → Group (List Node)
  | 0 => failure
  | fuel + 1 => do
    if ← accept .blockEntry then
      let item ← if ← ahead [.blockEntry, .blockEnd] then empty else node fuel true false
      return item :: (← blockItems fuel)
    else if ← accept .blockEnd then return []
    else failure

/-- The items of a sequence that is not indented. -/
def unindentedItems : Nat → Group (List Node)
  | 0 => failure
  | fuel + 1 => do
    if ← accept .blockEntry then
      let item ← if ← ahead [.blockEntry, .key, .value, .blockEnd] then empty
        else node fuel true false
      return item :: (← unindentedItems fuel)
    else return []

/-- The entries of a block mapping. -/
def blockEntries : Nat → Group (List (Node × Node))
  | 0 => failure
  | fuel + 1 => do
    if ← accept .key then
      let key ← if ← ahead [.key, .value, .blockEnd] then empty else node fuel true true
      let value ← if ← accept .value then
          if ← ahead [.key, .value, .blockEnd] then empty else node fuel true true
        else empty
      return (key, value) :: (← blockEntries fuel)
    else if ← accept .blockEnd then return []
    else failure

/-- The items between square brackets; a key among them is a mapping of one entry. -/
def flowItems : Nat → Bool → Group (List Node)
  | 0, _ => failure
  | fuel + 1, first => do
    if ← accept .flowSequenceEnd then return []
    if !first then
      if !(← accept .flowEntry) then failure
    if ← accept .flowSequenceEnd then return []
    if ← accept .key then
      count 2
      let key ←
        if ← ahead [.value, .flowEntry, .flowSequenceEnd] then do skip; empty
        else node fuel false false
      let value ← if ← accept .value then
          if ← ahead [.flowEntry, .flowSequenceEnd] then empty else node fuel false false
        else empty
      return .mapping none [(key, value)] :: (← flowItems fuel false)
    else
      let item ← node fuel false false
      return item :: (← flowItems fuel false)

/-- The entries between braces. -/
def flowEntries : Nat → Bool → Group (List (Node × Node))
  | 0, _ => failure
  | fuel + 1, first => do
    if ← accept .flowMappingEnd then return []
    if !first then
      if !(← accept .flowEntry) then failure
    if ← accept .flowMappingEnd then return []
    if ← accept .key then
      let key ← if ← ahead [.value, .flowEntry, .flowMappingEnd] then empty
        else node fuel false false
      let value ← if ← accept .value then
          if ← ahead [.flowEntry, .flowMappingEnd] then empty else node fuel false false
        else empty
      return (key, value) :: (← flowEntries fuel false)
    else
      let key ← node fuel false false
      let value ← empty
      return (key, value) :: (← flowEntries fuel false)

end

/-- The directives in front of a document: one version at most, and no handle twice. -/
def directives : Nat → Bool → Group Unit
  | 0, _ => failure
  | fuel + 1, versioned => do
    match ← peek with
    | some (.versionDirective major minor) =>
      if versioned || major ≠ 1 || (minor ≠ 1 && minor ≠ 2) then failure
      skip
      directives fuel true
    | some (.tagDirective handle uri) =>
      let s ← get
      if s.handles.any (·.1 == handle) then failure
      set { s with handles := s.handles ++ [(handle, uri)] }
      skip
      directives fuel versioned
    | _ => modify fun s =>
        { s with handles := s.handles ++ [("!", "!"), ("!!", "tag:yaml.org,2002:")] }

/-- Past the tokens that end documents. -/
def skipEnds : Nat → Group Unit
  | 0 => return ()
  | fuel + 1 => do if ← accept .documentEnd then skipEnds fuel

/-- The only document of the tokens, or nothing if there is none. -/
def document (fuel : Nat) : Group (Option Document) := do
  if (← peek).isNone then return none
  let before := (← get).tokens.length
  directives fuel false
  let directed := (← get).tokens.length < before
  let root ←
    if ← accept .documentStart then
      match ← peek with
      | none | some .documentStart | some .documentEnd | some (.versionDirective ..)
      | some (.tagDirective ..) => empty
      | _ => node fuel true false
    else if directed then failure
    else node fuel true false
  skipEnds fuel
  if (← peek).isSome then failure
  let s ← get
  return some ⟨root, s.anchored, s.events⟩

end Group

/-- Reads the document of a text: nothing inside if the text holds none, nothing at all if it is no
YAML or holds more than one. -/
def document? (text : String) : Option (Option Document) := do
  let tokens ← tokens? text
  let (d, _) ← (Group.document (2 * tokens.size + 4)).run { tokens := tokens.toList }
  return d

end ServiceControl.Yaml
