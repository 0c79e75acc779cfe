import ServiceControl.Adapter.Basic

/-!
# The blocking checker

Denies every call it applies to.
-/

namespace ServiceControl.Block

/-- The kind of the checker. -/
def kind : String := "block"

/-- What a denial says if the params say nothing. -/
def defaultMessage : String := "Access explicitly blocked"

/-- The checker with its message. -/
def checker (message : String) : Checker where
  name := kind
  check _ := .ok (some ⟨.clientAppBlocked, message⟩)

/-- The builder. -/
def builder (token : Nat) : CheckerBuilder where
  token := token
  schema := [⟨"Message", .text, .default (.text defaultMessage)⟩]
  build _ p := .ok (checker ((p.text? "Message").getD defaultMessage))

end ServiceControl.Block
