import ServiceControl.Net.Endpoint

/-!
# What the own host reaches

The host is alone: of addresses only those reach anything that lead back to it. It can listen at
them, and also at the addresses of groups and of everybody, which belong to no host in particular.
-/

namespace ServiceControl.Net

/-- Whether a word of four numbers leads back to the host: all zeros, or a first number of 127. -/
def leadsBack (bits : BitVec 32) : Bool := bits.toNat = 0 || bits.toNat / 2 ^ 24 = 127

/-- Whether a word of four numbers means several hosts: a group, or everybody. -/
def isShared (bits : BitVec 32) : Bool := bits.toNat / 2 ^ 28 = 14 || bits.toNat = 2 ^ 32 - 1

/-- The four numbers that an address of eight groups carries behind the groups `::ffff`. -/
def carried? (bits : BitVec 128) : Option (BitVec 32) :=
  if bits.toNat / 2 ^ 32 = 0xffff then some (bits.setWidth 32) else none

/-- Whether the host can listen at an address. -/
def Address.canListen : Address → Bool
  | .v4 bits => leadsBack bits || isShared bits
  | .v6 bits => bits.toNat ≤ 1 || (carried? bits).any fun b => leadsBack b || isShared b

/-- Whether the host can listen at an endpoint. -/
def canListen (endpoint : String) : Bool :=
  (Endpoint.parse? endpoint).any (·.address.canListen)

/-- Why nothing can be sent to an address from a socket of the four-number family. -/
inductive SendError where
  /-- The address is of the other family. -/
  | otherFamily
  /-- The address means everybody behind a device, which needs a permission. -/
  | denied
  /-- No device leads to the address. -/
  | unreachable
  deriving DecidableEq, Repr

/-- The wording of a send error. -/
def SendError.message : SendError → String
  | otherFamily => "Address family not supported by protocol (os error 97)"
  | denied => "Permission denied (os error 13)"
  | unreachable => "Network is unreachable (os error 101)"

/-- The last of the addresses that lead back to the host; it means everybody behind that device. -/
def lastOwn : BitVec 32 := 0x7fffffff#32

/-- Checks that something can be sent to an address. -/
def Address.checkSend : Address → Except SendError Unit
  | .v6 _ => .error .otherFamily
  | .v4 bits =>
    if bits = lastOwn then .error .denied
    else if leadsBack bits then .ok ()
    else .error .unreachable

end ServiceControl.Net
