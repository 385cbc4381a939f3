import StaleBuild.Checksum.Secure

/-!
Further checksums of messages: the digest of 128 bits by words in little order, the digest that takes
blocks as keys for mixing, a polynomial remainder, and two plain sums.
-/

namespace StaleBuild.Checksum

/-! ## 128 bits -/

/-- The constants of the rounds, which are the sines of whole numbers. -/
def sines : List UInt32 :=
  [0xd76aa478, 0xe8c7b756, 0x242070db, 0xc1bdceee, 0xf57c0faf, 0x4787c62a, 0xa8304613, 0xfd469501,
    0x698098d8, 0x8b44f7af, 0xffff5bb1, 0x895cd7be, 0x6b901122, 0xfd987193, 0xa679438e, 0x49b40821,
    0xf61e2562, 0xc040b340, 0x265e5a51, 0xe9b6c7aa, 0xd62f105d, 0x02441453, 0xd8a1e681, 0xe7d3fbc8,
    0x21e1cde6, 0xc33707d6, 0xf4d50d87, 0x455a14ed, 0xa9e3e905, 0xfcefa3f8, 0x676f02d9, 0x8d2a4c8a,
    0xfffa3942, 0x8771f681, 0x6d9d6122, 0xfde5380c, 0xa4beea44, 0x4bdecfa9, 0xf6bb4b60, 0xbebfbc70,
    0x289b7ec6, 0xeaa127fa, 0xd4ef3085, 0x04881d05, 0xd9d4d039, 0xe6db99e5, 0x1fa27cf8, 0xc4ac5665,
    0xf4292244, 0x432aff97, 0xab9423a7, 0xfc93a039, 0x655b59c3, 0x8f0ccc92, 0xffeff47d, 0x85845dd1,
    0x6fa87e4f, 0xfe2ce6e0, 0xa3014314, 0x4e0811a1, 0xf7537e82, 0xbd3af235, 0x2ad7d2bb, 0xeb86d391]

/-- How far words are rotated in the four turns. -/
def turns : List (List UInt32) :=
  [[7, 12, 17, 22], [5, 9, 14, 20], [4, 11, 16, 23], [6, 10, 15, 21]]

/-- The four words of a state. -/
abbrev State128 := UInt32 × UInt32 × UInt32 × UInt32

/-- One of 64 rounds. -/
def round128 (ws : Array UInt32) (s : State128) (step : UInt32 × Nat) : State128 :=
  let (a, b, c, d) := s
  let (k, t) := step
  let (f, g) : UInt32 × Nat :=
    if t < 16 then ((b &&& c) ||| (~~~b &&& d), t)
    else if t < 32 then ((d &&& b) ||| (~~~d &&& c), (5 * t + 1) % 16)
    else if t < 48 then (b ^^^ c ^^^ d, (3 * t + 5) % 16)
    else (c ^^^ (b ||| ~~~d), 7 * t % 16)
  let r := (turns.getD (t / 16) []).getD (t % 4) 0
  (d, b + rotl (a + f + k + ws.getD g 0) r, b, c)

/-- A state behind a block. -/
def block128 (s : State128) (block : Bytes) : State128 :=
  let ws := ((words 4 littleNumber block).map UInt32.ofNat).toArray
  let (a, b, c, d) := sines.zipIdx.foldl (round128 ws) s
  (s.1 + a, s.2.1 + b, s.2.2.1 + c, s.2.2.2 + d)

/-- The digest of 128 bits. -/
def md5 (message : Bytes) : Bytes :=
  let bytes := padded 64 8 littleBytes message
  let (a, b, c, d) := (pieces 64 bytes.length bytes).foldl block128
    (0x67452301, 0xefcdab89, 0x98badcfe, 0x10325476)
  [a, b, c, d].flatMap fun w => littleBytes 4 w.toNat

/-! ## Mixing with keys -/

/-- The order in which the words of a block are taken in each round. -/
def orders : List (List Nat) :=
  [[0, 1, 2, 3, 4, 5, 6, 7, 8, 9, 10, 11, 12, 13, 14, 15],
    [14, 10, 4, 8, 9, 15, 13, 6, 1, 12, 0, 2, 11, 7, 5, 3],
    [11, 8, 12, 0, 5, 2, 15, 13, 10, 14, 3, 6, 7, 1, 9, 4],
    [7, 9, 3, 1, 13, 12, 11, 14, 2, 6, 5, 10, 4, 0, 15, 8],
    [9, 0, 5, 7, 2, 4, 10, 15, 14, 1, 11, 12, 6, 8, 3, 13],
    [2, 12, 6, 10, 0, 11, 8, 3, 4, 13, 7, 5, 15, 14, 1, 9],
    [12, 5, 1, 15, 14, 13, 4, 10, 0, 7, 6, 3, 9, 2, 8, 11],
    [13, 11, 7, 14, 12, 1, 3, 9, 5, 0, 15, 4, 8, 6, 2, 10],
    [6, 15, 14, 9, 11, 3, 0, 8, 12, 2, 13, 7, 1, 4, 10, 5],
    [10, 2, 8, 4, 7, 6, 1, 5, 15, 11, 9, 14, 3, 12, 13, 0]]

/-- Mix two words into four places of a state. -/
def mix (v : Array UInt64) (a b c d : Nat) (x y : UInt64) : Array UInt64 :=
  let at' (v : Array UInt64) (i : Nat) : UInt64 := v.getD i 0
  let va := at' v a + at' v b + x
  let vd := rotr64 (at' v d ^^^ va) 32
  let vc := at' v c + vd
  let vb := rotr64 (at' v b ^^^ vc) 24
  let va := va + vb + y
  let vd := rotr64 (vd ^^^ va) 16
  let vc := vc + vd
  let vb := rotr64 (vb ^^^ vc) 63
  (((v.set! a va).set! b vb).set! c vc).set! d vd

/-- The places that are mixed in a round, columns first and then diagonals. -/
def mixPlaces : List (Nat × Nat × Nat × Nat) :=
  [(0, 4, 8, 12), (1, 5, 9, 13), (2, 6, 10, 14), (3, 7, 11, 15),
    (0, 5, 10, 15), (1, 6, 11, 12), (2, 7, 8, 13), (3, 4, 9, 14)]

/-- A state behind a block, with the count of bytes so far and whether the block is the last one. -/
def mixedBlock (h : List UInt64) (block : Bytes) (count : Nat) (isLast : Bool) : List UInt64 :=
  let filled := block ++ List.replicate (128 - block.length) 0
  let m := ((words 8 littleNumber filled).map UInt64.ofNat).toArray
  let tail := start512.zipIdx.map fun (w, i) =>
    if i = 4 then w ^^^ UInt64.ofNat count
    else if i = 5 then w ^^^ UInt64.ofNat (count / 2 ^ 64)
    else if i = 6 && isLast then ~~~w
    else w
  let v := (h ++ tail).toArray
  let rounds := orders ++ orders.take 2
  let v := rounds.foldl (fun v order =>
    mixPlaces.zipIdx.foldl (fun v (place, i) =>
      let (a, b, c, d) := place
      mix v a b c d (m.getD (order.getD (2 * i) 0) 0) (m.getD (order.getD (2 * i + 1) 0) 0)) v) v
  h.zipIdx.map fun (w, i) => w ^^^ v.getD i 0 ^^^ v.getD (i + 8) 0

/-- The blocks of a message one after the other. -/
def mixedBlocks : List UInt64 → Nat → List Bytes → List UInt64
  | h, count, [] => mixedBlock h [] count true
  | h, count, [last] => mixedBlock h last (count + last.length) true
  | h, count, block :: rest => mixedBlocks (mixedBlock h block (count + 128) false) (count + 128) rest

/-- The mixed digest of so many bytes. -/
def blake2b (size : Nat) (message : Bytes) : Bytes :=
  let start := match start512 with
    | w :: ws => (w ^^^ UInt64.ofNat (0x01010000 + size)) :: ws
    | [] => []
  ((mixedBlocks start 0 (pieces 128 message.length message)).flatMap
    fun w => littleBytes 8 w.toNat).take size

/-! ## Sums -/

/-- One bit of a polynomial division. -/
def divided (r : UInt32) : UInt32 :=
  if r &&& 0x80000000 ≠ 0 then (r <<< 1) ^^^ 0x04C11DB7 else r <<< 1

/-- The remainder of a polynomial division behind a byte. -/
def dividedByte (r : UInt32) (b : UInt8) : UInt32 :=
  let r := r ^^^ (UInt32.ofNat b.toNat <<< 24)
  divided (divided (divided (divided (divided (divided (divided (divided r)))))))

/-- The length of a message in as many bytes as it needs, the last one first. -/
def lengthBytes : Nat → Nat → Bytes
  | 0, _ => []
  | fuel + 1, n => if n = 0 then [] else UInt8.ofNat (n % 256) :: lengthBytes fuel (n / 256)

/-- The remainder of a message with its length. -/
def crc (message : Bytes) : Nat :=
  (~~~((message ++ lengthBytes 9 message.length).foldl dividedByte 0)).toNat

/-- The sum of bytes that is rotated before each one. -/
def rotatedSum (message : Bytes) : Nat :=
  message.foldl (fun s b => (s / 2 + s % 2 * 32768 + b.toNat) % 65536) 0

/-- The sum of bytes whose upper half is added to the lower one. -/
def plainSum (message : Bytes) : Nat :=
  let s := (message.foldl (fun s b => s + b.toNat) 0) % 2 ^ 32
  let r := s % 65536 + s / 65536
  r % 65536 + r / 65536

end StaleBuild.Checksum
