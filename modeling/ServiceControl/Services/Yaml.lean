import ServiceControl.Services.Basic

/-!
# Services documents

A services document is a mapping of service names. Declared keys may be absent, other keys are not
looked at, and outside of the embedded parts null stands for an empty list or mapping and tags are
looked through. The adapters of a peer are embedded in the peer's own mapping, and the kind and the
params of an entry in the entry's: the keys of such a mapping that it does not declare itself are
gathered first. What is gathered may hold no tags, and below it null is no longer an empty
collection, a record may be a list of its values in order, and a natural number among the keys of a
record is the place of a field.
-/

namespace ServiceControl.Services

open Yaml (Value)

/-- Whether a value is read in place, or was gathered from an embedding mapping first. -/
inductive Origin where
  | direct
  | gathered
  deriving DecidableEq

/-- The value below its tags. -/
def untagged : Value → Value
  | .tagged _ v => untagged v
  | v => v

mutual

/-- Whether no tag occurs in a value. -/
def tagFree : Value → Bool
  | .seq items => itemsTagFree items
  | .map entries => entriesTagFree entries
  | .tagged _ _ => false
  | _ => true

/-- Whether no tag occurs in items. -/
def itemsTagFree : List Value → Bool
  | [] => true
  | v :: r => tagFree v && itemsTagFree r

/-- Whether no tag occurs in entries. -/
def entriesTagFree : List (Value × Value) → Bool
  | [] => true
  | (k, v) :: r => tagFree k && tagFree v && entriesTagFree r

end

/-- Looks through tags where they are allowed. -/
def Origin.view : Origin → Value → Value
  | direct, v => untagged v
  | gathered, v => v

/-- Reads a text. -/
def text? (o : Origin) (v : Value) : Option String :=
  match o.view v with
  | .str s => some s
  | _ => none

/-- Reads a natural number of 64 bits. -/
def word? (o : Origin) (v : Value) : Option Nat :=
  match o.view v with
  | .int i => if 0 ≤ i ∧ i < 2 ^ 64 then some i.toNat else none
  | _ => none

/-- Reads the items of a list. -/
def items? (o : Origin) (v : Value) : Option (List Value) :=
  match o, o.view v with
  | _, .seq items => some items
  | .direct, .null => some []
  | _, _ => none

/-- Reads the entries of a mapping. -/
def entries? (o : Origin) (v : Value) : Option (List (Value × Value)) :=
  match o, o.view v with
  | _, .map entries => some entries
  | .direct, .null => some []
  | _, _ => none

/-- A key of a record. -/
inductive Key where
  | name (s : String)
  | place (i : Nat)
  deriving DecidableEq

/-- Reads the key of a record. -/
def key? (o : Origin) (v : Value) : Option Key :=
  match o, o.view v with
  | _, .str s => some (.name s)
  | .gathered, .int i => if 0 ≤ i then some (.place i.toNat) else none
  | _, _ => none

/-- Declared fields that are present. -/
abbrev Fields := List (String × Value)

/-- Adds a field, unless it is there already. -/
def addField? (name : String) (v : Value) (fields : Fields) : Option Fields :=
  if fields.any (·.1 == name) then none else some ((name, v) :: fields)

/-- The declared fields among entries; a number is the place of a declared name. -/
def recordEntries? (names : List String) (o : Origin) : List (Value × Value) → Option Fields
  | [] => some []
  | (k, v) :: r => do
    let k ← key? o k
    let fields ← recordEntries? names o r
    let name? := match k with
      | .name s => if s ∈ names then some s else none
      | .place i => names[i]?
    match name? with
    | some name => addField? name v fields
    | none => some fields

/-- The declared fields of a record. -/
def record? (names : List String) (o : Origin) (v : Value) : Option Fields :=
  match o, v with
  | .gathered, .seq items => if items.length ≤ names.length then some (names.zip items) else none
  | _, _ => (entries? o v).bind (recordEntries? names o)

/-- The fields of an embedding mapping: those that it declares itself, and all others, gathered. -/
def splitEntries? (names : List String) (o : Origin) :
    List (Value × Value) → Option (Fields × Fields)
  | [] => some ([], [])
  | (k, v) :: r => do
    let k ← key? o k
    let (own, rest) ← splitEntries? names o r
    match k with
    | .name s =>
      if s ∈ names then return (← addField? s v own, rest)
      else if tagFree v then return (own, (s, v) :: rest)
      else none
    | .place _ => return (own, rest)

/-- The fields of an embedding mapping. -/
def split? (names : List String) (o : Origin) (v : Value) : Option (Fields × Fields) :=
  (entries? o v).bind (splitEntries? names o)

/-- The declared fields of an embedded part among what was gathered. -/
def embedded? (names : List String) : Fields → Option Fields
  | [] => some []
  | (k, v) :: r => do
    let fields ← embedded? names r
    if k ∈ names then addField? k v fields else some fields

/-- Reads a field, or takes a default if it is absent. -/
def field (fields : Fields) (name : String) (default : α) (read : Value → Option α) : Option α :=
  match fields.find? (·.1 == name) with
  | some (_, v) => read v
  | none => some default

/-- Reads the hints about batches. -/
def batch? (o : Origin) (v : Value) : Option BatchHint := do
  let f ← record? ["size", "timeoutsec"] o v
  return { size := ← field f "size" 0 (word? o), timeoutSec := ← field f "timeoutsec" 0 (word? o) }

/-- Reads an entry. Its kind and params are embedded. -/
def entryOf? (o : Origin) (v : Value) : Option Entry := do
  let (own, rest) ← split? ["id", "batchparams"] o v
  let inner ← embedded? ["kind", "params"] rest
  return {
    id := ← field own "id" "" (text? o)
    kind := ← field inner "kind" "" (text? .gathered)
    params := ← field inner "params" .null some
    batch := ← field own "batchparams" {} (batch? o) }

/-- Reads a list of entries. -/
def entryList? (o : Origin) (v : Value) : Option (List Entry) :=
  (items? o v).bind fun items => items.mapM (entryOf? o)

/-- Reads the adapters of a scope. -/
def adapters? (v : Value) : Option Adapters := do
  let f ← record? ["checkers", "reporters"] .direct v
  return {
    checkers := ← field f "checkers" [] (entryList? .direct)
    reporters := ← field f "reporters" [] (entryList? .direct) }

/-- Reads a peer. Its adapters are embedded. -/
def peer? (v : Value) : Option Peer := do
  let (own, rest) ← split? ["serviceid"] .direct v
  let inner ← embedded? ["checkers", "reporters"] rest
  return {
    service := ← field own "serviceid" "" (text? .direct)
    adapters := {
      checkers := ← field inner "checkers" [] (entryList? .gathered)
      reporters := ← field inner "reporters" [] (entryList? .gathered) } }

/-- Reads a map; of a repeated key the last value stays. -/
def map? (read : Value → Option α) (v : Value) : Option (SortedMap α) := do
  let entries ← entries? .direct v
  let pairs ← entries.mapM fun e => return (← text? .direct e.1, ← read e.2)
  return SortedMap.ofList pairs

/-- Reads a service. -/
def service? (v : Value) : Option Service := do
  let f ← record? ["serviceid", "self", "ingress", "egress", "consumers", "producers"] .direct v
  return {
    id := ← field f "serviceid" "" (text? .direct)
    own := ← field f "self" {} adapters?
    ingress := ← field f "ingress" {} adapters?
    egress := ← field f "egress" {} adapters?
    consumers := ← field f "consumers" .empty (map? peer?)
    producers := ← field f "producers" .empty (map? peer?) }

/-- Reads the services of a document's value. -/
def ofValue? (v : Value) : Option Services := map? service? v

/-- Reads a services document. -/
def parse? (bytes : ByteArray) : Option Services := (Yaml.parseBytes? bytes).bind ofValue?

/-- Writes a map. -/
def mapValue (write : α → Value) (m : SortedMap α) : Value :=
  .map (m.entries.map fun e => (.str e.1, write e.2))

/-- Writes hints about batches. -/
def batchValue (b : BatchHint) : Value :=
  .map [(.str "size", .int b.size), (.str "timeoutsec", .int b.timeoutSec)]

/-- Writes an entry. Params that are null and hints that say nothing are left out. -/
def entryValue (e : Entry) : Value :=
  .map ([(.str "id", .str e.id), (.str "kind", .str e.kind)] ++
    (if e.params.isNull then [] else [(.str "params", e.params)]) ++
    (if e.batch = {} then [] else [(.str "batchparams", batchValue e.batch)]))

/-- The fields of adapters, as they are written. -/
def adapterFields (a : Adapters) : List (Value × Value) :=
  [(.str "checkers", .seq (a.checkers.map entryValue)),
    (.str "reporters", .seq (a.reporters.map entryValue))]

/-- Writes a peer. -/
def peerValue (p : Peer) : Value :=
  .map ((.str "serviceid", .str p.service) :: adapterFields p.adapters)

/-- Writes a service. -/
def serviceValue (s : Service) : Value :=
  .map [(.str "serviceid", .str s.id), (.str "self", .map (adapterFields s.own)),
    (.str "ingress", .map (adapterFields s.ingress)),
    (.str "egress", .map (adapterFields s.egress)),
    (.str "consumers", mapValue peerValue s.consumers),
    (.str "producers", mapValue peerValue s.producers)]

/-- Writes the services of a document. What conversion found out is not written. -/
def toValue (s : Services) : Value := mapValue serviceValue s

end ServiceControl.Services
