import StaleBuild.Checksum.Block

/-!
The secure hash algorithms with digests of 160, 224, 256, 384 and 512 bits. The constants of the longer
ones are the first bits of roots of the first primes.
-/

namespace StaleBuild.Checksum

/-! ## 160 bits -/

/-- A word rotated to the left. -/
def rotl (x : UInt32) (n : UInt32) : UInt32 := (x <<< n) ||| (x >>> (32 - n))

/-- A word rotated to the right. -/
def rotr (x : UInt32) (n : UInt32) : UInt32 := (x >>> n) ||| (x <<< (32 - n))

/-- The words of all rounds, the latest first, so many more than there are. -/
def schedule160 : Nat → List UInt32 → List UInt32
  | 0, ws => ws
  | n + 1, ws =>
    let w (i : Nat) : UInt32 := ws.getD (i - 1) 0
    schedule160 n (rotl (w 3 ^^^ w 8 ^^^ w 14 ^^^ w 16) 1 :: ws)

/-- The five words of a state. -/
abbrev State160 := UInt32 × UInt32 × UInt32 × UInt32 × UInt32

/-- One of 80 rounds. -/
def round160 (s : State160) (step : UInt32 × Nat) : State160 :=
  let (a, b, c, d, e) := s
  let (w, t) := step
  let (f, k) : UInt32 × UInt32 :=
    if t < 20 then ((b &&& c) ||| (~~~b &&& d), 0x5A827999)
    else if t < 40 then (b ^^^ c ^^^ d, 0x6ED9EBA1)
    else if t < 60 then ((b &&& c) ||| (b &&& d) ||| (c &&& d), 0x8F1BBCDC)
    else (b ^^^ c ^^^ d, 0xCA62C1D6)
  (rotl a 5 + f + e + k + w, a, rotl b 30, c, d)

/-- A state behind a block. -/
def block160 (s : State160) (block : Bytes) : State160 :=
  let ws := (words 4 bigNumber block).map UInt32.ofNat
  let all := (schedule160 64 ws.reverse).reverse
  let (a, b, c, d, e) := all.zipIdx.foldl round160 s
  (s.1 + a, s.2.1 + b, s.2.2.1 + c, s.2.2.2.1 + d, s.2.2.2.2 + e)

/-- The digest of 160 bits. -/
def sha1 (message : Bytes) : Bytes :=
  let bytes := padded 64 8 bigBytes message
  let (a, b, c, d, e) := (pieces 64 bytes.length bytes).foldl block160
    (0x67452301, 0xEFCDAB89, 0x98BADCFE, 0x10325476, 0xC3D2E1F0)
  [a, b, c, d, e].flatMap fun w => bigBytes 4 w.toNat

/-! ## 224 and 256 bits -/

/-- The words of all rounds, the latest first, so many more than there are. -/
def schedule256 : Nat → List UInt32 → List UInt32
  | 0, ws => ws
  | n + 1, ws =>
    let w (i : Nat) : UInt32 := ws.getD (i - 1) 0
    let s0 := rotr (w 15) 7 ^^^ rotr (w 15) 18 ^^^ (w 15 >>> 3)
    let s1 := rotr (w 2) 17 ^^^ rotr (w 2) 19 ^^^ (w 2 >>> 10)
    schedule256 n ((w 16 + s0 + w 7 + s1) :: ws)

/-- The constants of the rounds. -/
def constants256 : List UInt32 := ((primesBelow 312).map (rootBits 3 32)).map UInt32.ofNat

/-- A round, with the sum of word and constant. -/
def round256 (s : List UInt32) (wk : UInt32) : List UInt32 :=
  match s with
  | [a, b, c, d, e, f, g, h] =>
    let t1 := h + (rotr e 6 ^^^ rotr e 11 ^^^ rotr e 25) + ((e &&& f) ^^^ (~~~e &&& g)) + wk
    let t2 := (rotr a 2 ^^^ rotr a 13 ^^^ rotr a 22) + ((a &&& b) ^^^ (a &&& c) ^^^ (b &&& c))
    [t1 + t2, a, b, c, d + t1, e, f, g]
  | s => s

/-- A state behind a block. -/
def block256 (constants : List UInt32) (s : List UInt32) (block : Bytes) : List UInt32 :=
  let ws := (words 4 bigNumber block).map UInt32.ofNat
  let all := (schedule256 48 ws.reverse).reverse
  List.zipWith (· + ·) s ((List.zipWith (· + ·) all constants).foldl round256 s)

/-- The digest from a first state. -/
def digest256 (start : List UInt32) (message : Bytes) : Bytes :=
  let bytes := padded 64 8 bigBytes message
  ((pieces 64 bytes.length bytes).foldl (block256 constants256) start).flatMap
    fun w => bigBytes 4 w.toNat

/-- The digest of 256 bits. -/
def sha256 : Bytes → Bytes :=
  digest256 (((primesBelow 20).map (rootBits 2 32)).map UInt32.ofNat)

/-- The digest of 224 bits, whose first state is the second half of longer words. -/
def sha224 (message : Bytes) : Bytes :=
  (digest256 ((((primesBelow 54).drop 8).map (rootBits 2 64)).map UInt32.ofNat) message).take 28

/-! ## 384 and 512 bits -/

/-- A long word rotated to the right. -/
def rotr64 (x : UInt64) (n : UInt64) : UInt64 := (x >>> n) ||| (x <<< (64 - n))

/-- The words of all rounds, the latest first, so many more than there are. -/
def schedule512 : Nat → List UInt64 → List UInt64
  | 0, ws => ws
  | n + 1, ws =>
    let w (i : Nat) : UInt64 := ws.getD (i - 1) 0
    let s0 := rotr64 (w 15) 1 ^^^ rotr64 (w 15) 8 ^^^ (w 15 >>> 7)
    let s1 := rotr64 (w 2) 19 ^^^ rotr64 (w 2) 61 ^^^ (w 2 >>> 6)
    schedule512 n ((w 16 + s0 + w 7 + s1) :: ws)

/-- The constants of the rounds. -/
def constants512 : List UInt64 := ((primesBelow 410).map (rootBits 3 64)).map UInt64.ofNat

/-- A round, with the sum of word and constant. -/
def round512 (s : List UInt64) (wk : UInt64) : List UInt64 :=
  match s with
  | [a, b, c, d, e, f, g, h] =>
    let t1 := h + (rotr64 e 14 ^^^ rotr64 e 18 ^^^ rotr64 e 41) + ((e &&& f) ^^^ (~~~e &&& g)) + wk
    let t2 := (rotr64 a 28 ^^^ rotr64 a 34 ^^^ rotr64 a 39) + ((a &&& b) ^^^ (a &&& c) ^^^ (b &&& c))
    [t1 + t2, a, b, c, d + t1, e, f, g]
  | s => s

/-- A state behind a block. -/
def block512 (constants : List UInt64) (s : List UInt64) (block : Bytes) : List UInt64 :=
  let ws := (words 8 bigNumber block).map UInt64.ofNat
  let all := (schedule512 64 ws.reverse).reverse
  List.zipWith (· + ·) s ((List.zipWith (· + ·) all constants).foldl round512 s)

/-- The digest from a first state. -/
def digest512 (start : List UInt64) (message : Bytes) : Bytes :=
  let bytes := padded 128 16 bigBytes message
  ((pieces 128 bytes.length bytes).foldl (block512 constants512) start).flatMap
    fun w => bigBytes 8 w.toNat

/-- The first state of the longest digest. -/
def start512 : List UInt64 := ((primesBelow 20).map (rootBits 2 64)).map UInt64.ofNat

/-- The digest of 512 bits. -/
def sha512 : Bytes → Bytes := digest512 start512

/-- The digest of 384 bits. -/
def sha384 (message : Bytes) : Bytes :=
  (digest512 ((((primesBelow 54).drop 8).map (rootBits 2 64)).map UInt64.ofNat) message).take 48

end StaleBuild.Checksum
