import ServiceControl.Adapter.Basic
import ServiceControl.Digest.Sha1
import ServiceControl.Net.Network
import ServiceControl.Net.Url
import ServiceControl.Yaml.Node

/-!
# The whitelist checker

Admits callers whose address is on a list that a provider serves. The list starts empty and is
fetched again and again; a fetch replaces it only if it brings a new document with at least one
usable network, and leaves everything as it is otherwise.
-/

namespace ServiceControl.Whitelist

open Yaml (Document Node)

/-- The kind of the checker. -/
def kind : String := "whitelist"

/-- What a denial says. -/
def blockedMessage : String := "IP address is not on the whitelist"

/-- A node in the place of its alias. -/
def followed (d : Document) : Node → Option Node
  | .alias number => d.target? number
  | n => some n

/-- The text of a scalar; plain scalars are taken as they are written. -/
def scalarText? (d : Document) (n : Node) : Option String :=
  match followed d n with
  | some (.scalar _ _ text) => some text
  | _ => none

/-- Whether nothing was written in the place of a node. -/
def isNothing : Node → Bool
  | .scalar _ .plain "" => true
  | _ => false

/-- The texts of a sequence; nothing written is an empty one. -/
def texts? (d : Document) (n : Node) : Option (List String) := do
  match ← followed d n with
  | .sequence _ items => items.mapM (scalarText? d)
  | n => if isNothing n then some [] else none

/-- The entries under the key of the list, which may not stand twice. Other keys
are not looked at. -/
def entriesUnderKey? (d : Document) (found : Option (List String)) :
    List (Node × Node) → Option (List String)
  | [] => some (found.getD [])
  | (k, v) :: r => do
    if (← scalarText? d k) = "whitelist" then
      if found.isSome then none
      else entriesUnderKey? d (some (← texts? d v)) r
    else entriesUnderKey? d found r

/-- The entries of a list document. -/
def entries? (bytes : ByteArray) : Option (List String) := do
  match ← Yaml.document? (← String.fromUTF8? bytes) with
  | none => return []
  | some d =>
    match ← followed d d.root with
    | .mapping _ entries => entriesUnderKey? d none entries
    | n => if isNothing n then some [] else none

/-- The network of an entry, if it is usable. -/
def network? (entry : String) : Option Net.Network := (Net.Network.parse entry).toOption

/-- The usable networks of a list document. -/
def parseList? (bytes : ByteArray) : Option (List Net.Network) :=
  (entries? bytes).map (·.filterMap network?)

/-- Whether a text is an address on a list. -/
def isListed (networks : List Net.Network) (ip : String) : Bool :=
  (Net.Address.parse? ip).any fun a => networks.any (·.contains a)

/-- What a list says about a call. -/
def verdict (networks : List Net.Network) (request : CheckRequest) : Verdict :=
  match request.callerIp with
  | none => .error (.check s!"{callerIpKey} Label not found")
  | some ip => .ok (if isListed networks ip then none else some ⟨.ipAddressBlocked, blockedMessage⟩)

/-- The checker over a list. -/
def checker (networks : List Net.Network) : Checker where
  name := kind
  check := verdict networks

/-- The list in force and the digest of the document it came from. -/
structure State where
  networks : List Net.Network := []
  digest : Option String := none
  deriving Repr

/-- What a provider answers. -/
inductive Answer where
  | unreachable
  | response (status : Nat) (body : ByteArray)

/-- An answer as it arrives: the statuses that announce no contents come without any. -/
def Answer.received (status : Nat) (body : ByteArray) : Answer :=
  .response status (if status = 204 ∨ status = 304 then .empty else body)

/-- What a fetch did. -/
inductive Outcome where
  | applied (count : Nat)
  | unchanged
  | failed
  deriving DecidableEq, Repr

/-- Takes in what the provider answered. -/
def State.refresh (s : State) : Answer → Outcome × State
  | .unreachable => (.failed, s)
  | .response status body =>
    if status < 200 ∨ 300 ≤ status then (.failed, s)
    else if s.digest = some (Sha1.hex body) then (.unchanged, s)
    else match parseList? body with
      | some (n :: networks) =>
        (.applied (networks.length + 1), ⟨n :: networks, some (Sha1.hex body)⟩)
      | _ => (.failed, s)

/-- The provider has to be a URL. -/
def validate (p : Params) : Except AdapterError Unit :=
  let url := (p.text? "ProviderURL").getD ""
  match Net.Url.parse url with
  | .ok _ => .ok ()
  | .error e => .error (.invalidConfig s!"ProviderURL '{url}': {e.message}")

/-- Builds a checker with an empty list; without a scheduler the list could never be fetched. -/
def build (scheduler : Bool) (p : Params) : Except AdapterError Checker :=
  if (p.text? "ProviderURL").isNone then .error (.invalidConfig "ProviderURL is required")
  else if scheduler then .ok (checker [])
  else .error (.build "nothing runs the refresh")

/-- The builder. -/
def builder (token : Nat) (scheduler : Bool) : CheckerBuilder where
  token := token
  schema := [⟨"ProviderURL", .text, .required⟩]
  validate := validate
  build _ := build scheduler

end ServiceControl.Whitelist
