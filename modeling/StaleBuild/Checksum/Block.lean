import StaleBuild.Path

/-!
What checksums share that go through a message in blocks: the message is filled up to whole blocks, with
its length at the end, and each block is read as words.

`Checksum` serves the utilities that print digests, which a command may start, and nothing else.
-/

namespace StaleBuild.Checksum

/-- The lowest bytes of a number, the last one first. -/
def littleBytes : Nat → Nat → Bytes
  | 0, _ => []
  | n + 1, v => UInt8.ofNat (v % 256) :: littleBytes n (v / 256)

/-- The lowest bytes of a number, the first one first. -/
def bigBytes (n v : Nat) : Bytes := (littleBytes n v).reverse

/-- The number that bytes spell, the first one first. -/
def bigNumber (bytes : Bytes) : Nat := bytes.foldl (fun n b => n * 256 + b.toNat) 0

/-- The number that bytes spell, the last one first. -/
def littleNumber (bytes : Bytes) : Nat := bigNumber bytes.reverse

/-- How many zero bytes go between a message with its end mark and its length. -/
def gap (block lengthBytes size : Nat) : Nat := (block - (size + 1 + lengthBytes) % block) % block

/-- A message filled up to whole blocks: an end mark, zeros, and the length in bits. -/
def padded (block lengthBytes : Nat) (length : Nat → Nat → Bytes) (message : Bytes) : Bytes :=
  message ++ 0x80 :: (List.replicate (gap block lengthBytes message.length) 0 ++
    length lengthBytes (8 * message.length))

/-- A list in pieces of a length; the last piece can be shorter. -/
def pieces {α : Type} (n : Nat) : Nat → List α → List (List α)
  | 0, _ => []
  | _, [] => []
  | fuel + 1, xs => xs.take n :: pieces n fuel (xs.drop n)

/-- The words of some bytes in each. -/
def words (n : Nat) (read : Bytes → Nat) (bytes : Bytes) : List Nat :=
  (pieces n bytes.length bytes).map read

/-! ## Constants -/

/-- The largest number whose power is not above a number, found bit by bit. -/
def root (k : Nat) : Nat → Nat → Nat → Nat
  | 0, r, _ => r
  | bits + 1, r, n =>
    let r' := r + 2 ^ bits
    root k bits (if r' ^ k ≤ n then r' else r) n

/-- Whether a number is prime. -/
def isPrime (n : Nat) : Bool := 2 ≤ n && (List.range n).all fun d => d < 2 || n % d ≠ 0

/-- The primes below a number. -/
def primesBelow (n : Nat) : List Nat := (List.range n).filter isPrime

/-- The first bits behind the point of a root of a number. -/
def rootBits (k bits n : Nat) : Nat := root k (bits + 10) 0 (n * 2 ^ (k * bits)) % 2 ^ bits

end StaleBuild.Checksum
