import ServiceControl.Text.Hex

/-!
# SHA-1 digests

Documents are told apart by their SHA-1 digest. A message is padded to whole blocks of sixty-four
bytes, each block is expanded to eighty words, and eighty rounds fold it into five chaining words.
-/

namespace ServiceControl.Sha1

/-- The five chaining words. -/
structure Chain where
  a : UInt32
  b : UInt32
  c : UInt32
  d : UInt32
  e : UInt32
  deriving DecidableEq

/-- The chaining words before the first block. -/
def start : Chain := ⟨0x67452301, 0xEFCDAB89, 0x98BADCFE, 0x10325476, 0xC3D2E1F0⟩

/-- Rotation to the left. -/
def rotate (x n : UInt32) : UInt32 := (x <<< n) ||| (x >>> (32 - n))

/-- Big-endian bytes of a natural number, the given count of them. -/
def bigEndian (count n : Nat) : List UInt8 :=
  (List.range count).map fun i => UInt8.ofNat (n / 256 ^ (count - 1 - i))

/-- The message with one set bit, the fewest zeros that fill a block, and the length in bits. -/
def pad (message : List UInt8) : List UInt8 :=
  let zeros := (119 - message.length % 64) % 64
  message ++ 0x80 :: (List.replicate zeros 0 ++ bigEndian 8 (8 * message.length))

/-- Big-endian words of a list of bytes; a remainder of fewer than four bytes is left out. -/
def words : List UInt8 → List UInt32
  | a :: b :: c :: d :: r =>
    (a.toUInt32 <<< 24 ||| b.toUInt32 <<< 16 ||| c.toUInt32 <<< 8 ||| d.toUInt32) :: words r
  | _ => []

/-- The next word of the schedule, from the last sixteen, latest first. -/
def nextWord (w : List UInt32) : UInt32 :=
  let get (i : Nat) := (w[i]?).getD 0
  rotate (get 2 ^^^ get 7 ^^^ get 13 ^^^ get 15) 1

/-- The schedule of a block, latest word first. -/
def schedule (block : List UInt32) : List UInt32 :=
  (List.range 64).foldl (fun w _ => nextWord w :: w) block.reverse

/-- The mixing function and constant of a round. -/
def mix (round : Nat) (b c d : UInt32) : UInt32 × UInt32 :=
  if round < 20 then ((b &&& c) ||| ((~~~b) &&& d), 0x5A827999)
  else if round < 40 then (b ^^^ c ^^^ d, 0x6ED9EBA1)
  else if round < 60 then ((b &&& c) ||| (b &&& d) ||| (c &&& d), 0x8F1BBCDC)
  else (b ^^^ c ^^^ d, 0xCA62C1D6)

/-- One round with its word. -/
def round (h : Chain) (step : UInt32 × Nat) : Chain :=
  let (f, k) := mix step.2 h.b h.c h.d
  ⟨rotate h.a 5 + f + h.e + k + step.1, h.a, rotate h.b 30, h.c, h.d⟩

/-- Folds a block into the chaining words. -/
def compress (h : Chain) (block : List UInt32) : Chain :=
  let r := (schedule block).reverse.zipIdx.foldl round h
  ⟨h.a + r.a, h.b + r.b, h.c + r.c, h.d + r.d, h.e + r.e⟩

/-- Folds the whole blocks of a list of words into the chaining words. -/
def blocks (h : Chain) (ws : List UInt32) : Chain :=
  if _ : ws.length < 16 then h else blocks (compress h (ws.take 16)) (ws.drop 16)
termination_by ws.length
decreasing_by rw [List.length_drop]; omega

/-- The digest as twenty bytes. -/
def digest (message : List UInt8) : List UInt8 :=
  let h := blocks start (words (pad message))
  [h.a, h.b, h.c, h.d, h.e].flatMap fun w => bigEndian 4 w.toNat

/-- The digest as forty small hexadecimal digits. -/
def hex (message : ByteArray) : String := String.ofList (Hex.encode (digest message.toList))

end ServiceControl.Sha1
