import ServiceControl.Net.Address
import ServiceControl.Text.Blank
import ServiceControl.Text.Cut

/-!
# Networks

A network is an address with the number of its leading bits that count. An address belongs to the
network if it is of the same family and has the same leading bits.
-/

namespace ServiceControl.Net

/-- A network: an address and the length of its leading part. -/
structure Network where
  address : Address
  length : Nat
  length_le : length ≤ address.width
  deriving DecidableEq, Repr

/-- The mask of the leading bits of a word, computed in 128 bits for both families. -/
def leadingMask (length width : Nat) : BitVec 128 :=
  if length = 0 then 0
  else
    let all := if width = 128 then BitVec.allOnes 128 else (1#128 <<< width) - 1#128
    all &&& ~~~((1#128 <<< (width - length)) - 1#128)

/-- Whether an address belongs to a network. -/
def Network.contains (n : Network) (a : Address) : Bool :=
  match n.address, a with
  | .v4 net, .v4 ip =>
    let mask := (leadingMask n.length 32).setWidth 32
    net &&& mask == ip &&& mask
  | .v6 net, .v6 ip =>
    let mask := leadingMask n.length 128
    net &&& mask == ip &&& mask
  | _, _ => false

/-- Why a text is no small number. -/
inductive NumberError where
  | empty
  | invalidDigit
  | tooLarge
  deriving DecidableEq, Repr

/-- The wording of a number error. -/
def NumberError.message : NumberError → String
  | empty => "cannot parse integer from empty string"
  | invalidDigit => "invalid digit found in string"
  | tooLarge => "number too large to fit in target type"

/-- Reads digits up to a maximum; the first fault from the left counts. -/
def digitsUpTo (maximum : Nat) : Nat → List Char → Except NumberError Nat
  | n, [] => .ok n
  | n, c :: cs =>
    match Text.digit? c with
    | none => .error .invalidDigit
    | some d =>
      if maximum < n * 10 + d then .error .tooLarge else digitsUpTo maximum (n * 10 + d) cs

/-- Reads a number up to a maximum; a plus sign may stand in front. -/
def numberUpTo (maximum : Nat) (s : String) : Except NumberError Nat :=
  match s.toList with
  | [] => .error .empty
  | ['+'] => .error .invalidDigit
  | '+' :: cs => digitsUpTo maximum 0 cs
  | cs => digitsUpTo maximum 0 cs

/-- Why a text is no network. -/
inductive NetworkError where
  | address (text : String)
  | length (text : String) (e : NumberError)
  | range (text : String) (length : Nat)
  deriving DecidableEq, Repr

/-- The wording of a network error. -/
def NetworkError.message : NetworkError → String
  | address s => s!"{s}: invalid IP address syntax"
  | length s e => s!"{s}: {e.message}"
  | range s n => s!"{s}: prefix length {n} out of range"

/-- The network of an address and a length, unless the length is out of range. -/
def Network.ofLength (text : String) (a : Address) (length : Nat) : Except NetworkError Network :=
  if h : length ≤ a.width then .ok ⟨a, length, h⟩ else .error (.range text length)

/-- Reads an address, and a length behind a slash; a bare address is a network of its own. -/
def Network.parse (s : String) : Except NetworkError Network :=
  let (addressText, lengthText) := match Text.cut? "/" s with
    | some (a, l) => (a, some l)
    | none => (s, none)
  match Address.parse? (Text.trim addressText) with
  | none => .error (.address s)
  | some a =>
    match lengthText with
    | none => .ok ⟨a, a.width, Nat.le_refl _⟩
    | some l =>
      match numberUpTo 255 (Text.trim l) with
      | .error e => .error (.length s e)
      | .ok n => Network.ofLength s a n

end ServiceControl.Net
