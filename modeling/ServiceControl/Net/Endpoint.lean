import ServiceControl.Net.Address
import ServiceControl.Text.Cut

/-!
# Endpoints

An endpoint is an address with a port. An address of eight groups stands in brackets, where a scope
number may follow it behind a percent sign.
-/

namespace ServiceControl.Net

/-- An address, a scope for addresses of eight groups, and a port. -/
structure Endpoint where
  address : Address
  scope : Nat := 0
  port : Nat
  deriving DecidableEq, Repr

/-- Reads a port behind its colon. -/
def port? (cs : List Char) : Option (Nat × List Char) := do
  number? 10 none true 65535 (← char? ':' cs)

/-- Reads the number of a scope behind a percent sign, if there is one. -/
def scope? : List Char → Option (Nat × List Char)
  | '%' :: r => number? 10 none true (2 ^ 32 - 1) r
  | r => some (0, r)

/-- Reads an endpoint of four decimal numbers. -/
def endpoint4? (cs : List Char) : Option Endpoint := do
  let (a, r) ← v4? cs
  let (p, r) ← port? r
  if r.isEmpty then return ⟨.v4 a, 0, p⟩ else none

/-- Reads an endpoint in brackets. -/
def endpoint6? (cs : List Char) : Option Endpoint := do
  let (a, r) ← v6? (← char? '[' cs)
  let (scope, r) ← scope? r
  let (p, r) ← port? (← char? ']' r)
  if r.isEmpty then return ⟨.v6 a, scope, p⟩ else none

/-- Reads an endpoint. -/
def Endpoint.parse? (s : String) : Option Endpoint :=
  (endpoint4? s.toList).or (endpoint6? s.toList)

/-- Puts a port behind the last colon; without a colon there is no host to keep, and all addresses
of four numbers take its place. -/
def withPort (endpoint : String) (port : Nat) : String :=
  match Text.cutLast? ':' endpoint with
  | some (host, _) => s!"{host}:{port}"
  | none => s!"0.0.0.0:{port}"

end ServiceControl.Net
