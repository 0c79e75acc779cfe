import ServiceControl.Digest.Sha1
import ServiceControl.Reload.Source
import ServiceControl.Services.Convert
import ServiceControl.Services.Yaml

/-!
# Reloading the services document

A fetched document is put in force if it differs from the one that is in force already. Documents
are told apart by the SHA-1 digest of their bytes. A fetch that fails and a document that cannot be
read change nothing, so the same document is tried again at the next reload.
-/

namespace ServiceControl

/-- What a fetched document leads to. -/
inductive ReloadPlan where
  /-- The fetch failed. -/
  | failed (e : FetchError)
  /-- The document is the one in force. -/
  | unchanged
  /-- The document is not one of services. -/
  | unreadable
  /-- The document comes into force. -/
  | apply (digest : String) (services : Services) (errors : List ConversionError)

/-- What came of a reload. -/
inductive ReloadOutcome where
  | failed (e : FetchError)
  | unchanged
  | unreadable
  /-- A document came into force; some of its entries may be removed or disabled. -/
  | applied (errors : Nat)
  deriving DecidableEq, Repr

/-- The word under which an outcome is counted. -/
def ReloadOutcome.label : ReloadOutcome → String
  | failed _ => "error"
  | unchanged => "unchanged"
  | unreadable => "error"
  | applied _ => "applied"

/-- The outcome of a plan that is carried out. -/
def ReloadPlan.outcome : ReloadPlan → ReloadOutcome
  | failed e => .failed e
  | unchanged => .unchanged
  | unreadable => .unreadable
  | apply _ _ errors => .applied errors.length

/-- The document in force and everything that came into force. -/
structure Reloader where
  registries : Registries
  /-- The digest of the document in force. -/
  digest : Option String := none
  /-- The configurations that came into force, in order; every listener is given each of them. -/
  snapshots : List Services := []

namespace Reloader

/-- What a fetched document leads to, with a given digest in force. -/
def plan (r : Registries) (inForce : Option String) : Except FetchError ByteArray → ReloadPlan
  | .error e => .failed e
  | .ok bytes =>
    let digest := Sha1.hex bytes
    if inForce = some digest then .unchanged
    else match Services.parse? bytes with
      | none => .unreadable
      | some services =>
        let c := services.convert r
        .apply digest c.value c.errors

/-- Records the digest of a plan. -/
def recordDigest (m : Reloader) : ReloadPlan → Reloader
  | .apply digest _ _ => { m with digest := some digest }
  | _ => m

/-- Gives the configuration of a plan to the listeners. -/
def announce (m : Reloader) : ReloadPlan → Reloader
  | .apply _ services _ => { m with snapshots := m.snapshots ++ [services] }
  | _ => m

/-- Takes in what a fetch brought: plans, records the digest, and tells the listeners. -/
def receive (m : Reloader) (fetched : Except FetchError ByteArray) : ReloadOutcome × Reloader :=
  let p := plan m.registries m.digest fetched
  (p.outcome, (m.recordDigest p).announce p)

/-- The configuration in force, if any came into force. -/
def current? (m : Reloader) : Option Services := m.snapshots.getLast?

end Reloader

end ServiceControl
