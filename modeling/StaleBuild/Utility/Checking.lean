import StaleBuild.Checksum.Message
import StaleBuild.Utility.Reading

/-!
Utilities that write checksums of files, and that check files against a list of checksums.
-/

namespace StaleBuild.Utility

open Host (Str str Call Program Given)
open Host.Quote (beforeColon curly)

namespace Check

/-- A way to compute checksums: its name, the length of a checksum in bytes, and the checksum. -/
structure Method where
  name : String
  size : Nat
  digest : Bytes → Bytes

/-- Bytes in digits of base 16. -/
def hex (bytes : Bytes) : Str :=
  bytes.flatMap fun b =>
    let digit (n : Nat) : Char := (Host.digitsIn 16 n).headD '0'
    [digit (b.toNat / 16), digit (b.toNat % 16)]

/-- The checksum of a text in digits. -/
def Method.shown (m : Method) (text : Str) : Str := hex (m.digest (Host.toBytes text))

/-- Whether a name cannot stand on a line as it is. -/
def isAwkward (name : Str) : Bool := name.any fun c => c = '\\' || c = '\n' || c = '\r'

/-- A name with what would break the line spelled out. -/
def escaped (name : Str) : Str :=
  name.flatMap fun c => match c with
    | '\\' => str "\\\\"
    | '\n' => str "\\n"
    | '\r' => str "\\r"
    | c => [c]

/-- A name read back; none if a backslash has no meaning. -/
def unescaped : Str → Option Str
  | [] => some []
  | '\\' :: 'n' :: rest => (unescaped rest).map ('\n' :: ·)
  | '\\' :: 'r' :: rest => (unescaped rest).map ('\r' :: ·)
  | '\\' :: '\\' :: rest => (unescaped rest).map ('\\' :: ·)
  | '\\' :: _ => none
  | c :: rest => (unescaped rest).map (c :: ·)

/-- The line for a file. -/
def line (m : Method) (g : Given) (tagged : Bool) (name digest : Str) : Str :=
  let escapes := isAwkward name && !g.has 'z'
  let shown := if escapes then escaped name else name
  (if escapes then ['\\'] else []) ++
    (if tagged then str m.name ++ str " (" ++ shown ++ str ") = " ++ digest
    else digest ++ ' ' :: (if g.has 'b' then '*' else ' ') :: shown) ++
    if g.has 'z' then ['\x00'] else ['\n']

/-- A line of a list: the checksum and the name of the file. -/
def entryOf (m : Method) (l : Str) : Option (Str × Str) := do
  let l := l.dropWhile Host.isBlank
  let (escapes, l) := match l with
    | '\\' :: rest => (true, rest)
    | l => (false, l)
  let isDigest (d : Str) : Bool := d.length = 2 * m.size && d.all (Host.isDigitIn 16)
  let tag := str m.name ++ str " ("
  let (digest, name) ←
    if tag.isPrefixOf l then
      let rest := l.drop tag.length
      let digest := (rest.reverse.takeWhile (· ≠ ' ')).reverse
      let front := rest.take (rest.length - digest.length)
      if (str ") = ").isSuffixOf front then some (digest, front.take (front.length - 4)) else none
    else
      let digest := l.takeWhile (Host.isDigitIn 16)
      match l.drop digest.length with
      | ' ' :: c :: name => if c = ' ' || c = '*' then some (digest, name) else some (digest, c :: name)
      | _ => none
  if !isDigest digest || name = [] then none
  else
    let name ← if escapes then unescaped name else some name
    return (Host.toLower digest, name)

/-- What has been found while files are checked. -/
structure Found where
  proper : Nat
  improper : Nat
  unread : Nat
  wrong : Nat
  right : Nat

/-- A count with the word that goes with it. -/
def counted (n : Nat) (one many : String) : Str := Host.decimal n ++ ' ' :: str (if n = 1 then one else many)

/-- Check the files of a list. -/
def verify (c : Call) (m : Method) (g : Given) (list : Str) : Act Bool := do
  let shown := if list = ['-'] then str "standard input" else list
  match ← Call.readOperand list with
  | .error cause =>
    c.warn (beforeColon list ++ str ": " ++ Host.reason cause)
    return false
  | .ok text =>
    let quiet := g.has '\x05' || g.has '\x06'
    let mut f : Found := ⟨0, 0, 0, 0, 0⟩
    for (l, n) in (Host.linesOf text).zipIdx 1 do
      if l.head? ≠ some '#' && l ≠ [] then
        match entryOf m (Host.dropEnd (· = '\r') l) with
        | none =>
          f := { f with improper := f.improper + 1 }
          if g.has 'w' then
            c.warn (beforeColon shown ++ str ": " ++ Host.decimal (n : Nat) ++
              str ": improperly formatted " ++ str m.name ++ str " checksum line")
        | some (digest, name) =>
          f := { f with proper := f.proper + 1 }
          let marked := (if isAwkward name then ['\\'] else []) ++ if isAwkward name then escaped name else name
          match ← Call.readOperand name with
          | .error cause =>
            if !(g.has '\x04' && cause = .notFound) then
              f := { f with unread := f.unread + 1 }
              c.warn (beforeColon name ++ str ": " ++ Host.reason cause)
              if !g.has '\x06' then Act.say (marked ++ str ": FAILED open or read\n")
          | .ok text =>
            if m.shown text = digest then
              f := { f with right := f.right + 1 }
              if !quiet then Act.say (marked ++ str ": OK\n")
            else
              f := { f with wrong := f.wrong + 1 }
              if !g.has '\x06' then Act.say (marked ++ str ": FAILED\n")
    if f.proper = 0 then
      c.warn (beforeColon shown ++ str ": no properly formatted checksum lines found")
      return false
    else
      if !g.has '\x06' then
        if f.improper ≠ 0 then
          c.warn (str "WARNING: " ++
            counted f.improper "line is improperly formatted" "lines are improperly formatted")
        if f.unread ≠ 0 then
          c.warn (str "WARNING: " ++
            counted f.unread "listed file could not be read" "listed files could not be read")
        if f.wrong ≠ 0 then
          c.warn (str "WARNING: " ++
            counted f.wrong "computed checksum did NOT match" "computed checksums did NOT match")
      if g.has '\x04' && f.right = 0 then
        c.warn (beforeColon shown ++ str ": no file was verified")
        return false
      return f.wrong = 0 && f.unread = 0 && (!g.has '\x07' || f.improper = 0)

def long : List Host.LongOption :=
  [⟨"binary", .nothing, 'b'⟩, ⟨"check", .nothing, 'c'⟩, ⟨"tag", .nothing, '\x03'⟩,
    ⟨"text", .nothing, 't'⟩, ⟨"zero", .nothing, 'z'⟩, ⟨"ignore-missing", .nothing, '\x04'⟩,
    ⟨"quiet", .nothing, '\x05'⟩, ⟨"status", .nothing, '\x06'⟩, ⟨"strict", .nothing, '\x07'⟩,
    ⟨"warn", .nothing, 'w'⟩]

/-- Write or check checksums. -/
def work (c : Call) (m : Method) (g : Given) (tagged : Bool) : Act Nat := do
  if g.has 'c' then
    if g.has '\x03' then c.misused 1 (str "the --tag option is meaningless when verifying checksums")
    if g.has 'z' then c.misused 1 (str "the --zero option is not supported when verifying checksums")
    if g.has 'b' || g.has 't' then
      c.misused 1 (str "the --binary and --text options are meaningless when verifying checksums")
  else
    for (letter, name) in [('\x04', "ignore-missing"), ('\x06', "status"), ('w', "warn"),
        ('\x05', "quiet"), ('\x07', "strict")] do
      if g.has letter then
        c.misused 1 (str ("the --" ++ name ++ " option is meaningful only when verifying checksums"))
  let mut status := 0
  for o in Call.orInput g.operands do
    if g.has 'c' then
      if !(← verify c m g o) then status := 1
    else
      match ← contentsOf c o with
      | some text => Act.say (line m g tagged o (m.shown text))
      | none => status := 1
  return status

def md5 : Method := ⟨"MD5", 16, Checksum.md5⟩

def sha1 : Method := ⟨"SHA1", 20, Checksum.sha1⟩

def sha224 : Method := ⟨"SHA224", 28, Checksum.sha224⟩

def sha256 : Method := ⟨"SHA256", 32, Checksum.sha256⟩

def sha384 : Method := ⟨"SHA384", 48, Checksum.sha384⟩

def sha512 : Method := ⟨"SHA512", 64, Checksum.sha512⟩

/-- The mixed digest of so many bytes. -/
def blake2b (size : Nat) : Method :=
  ⟨if size = 64 then "BLAKE2b" else "BLAKE2b-" ++ toString (8 * size), size, Checksum.blake2b size⟩

/-- The size of the mixed digest that an option asks for. -/
def mixedSize (c : Call) (g : Given) : Act Nat := do
  match g.value? 'l' with
  | none => return 64
  | some s =>
    match Host.natural? s with
    | some 0 => return 64
    | some n =>
      if 512 < n then
        c.warn (str "invalid length: " ++ curly s)
        c.die 1 (str "maximum digest length for " ++ curly (str "BLAKE2b") ++ str " is 512 bits")
      else if n % 8 ≠ 0 then
        c.warn (str "invalid length: " ++ curly s)
        c.die 1 (str "length is not a multiple of 8")
      else return n / 8
    | none => c.die 1 (str "invalid length: " ++ curly s)

/-- Write plain sums: with what stands for a file between the sum and the name. -/
def sums (c : Call) (g : Given) (number : Str → Str) : Act Nat :=
  eachText c g.operands fun o text =>
    Act.say (number text ++ (if g.operands = [] then [] else ' ' :: o) ++ ['\n'])

/-- A sum with the length of the text. -/
def crcNumber (text : Str) : Str :=
  Host.decimal (Checksum.crc (Host.toBytes text) : Nat) ++ ' ' :: Host.decimal (text.length : Nat)

/-- A rotated sum with the count of blocks. -/
def rotatedNumber (text : Str) : Str :=
  Host.padZero 5 (Checksum.rotatedSum (Host.toBytes text)) ++ ' ' ::
    Host.padLeft 5 (Host.decimal ((text.length + 1023) / 1024 : Nat))

/-- A plain sum with the count of blocks. -/
def plainNumber (text : Str) : Str :=
  Host.decimal (Checksum.plainSum (Host.toBytes text) : Nat) ++ ' ' ::
    Host.decimal ((text.length + 511) / 512 : Nat)

end Check

open Check in
/-- Write or check checksums of one kind. -/
def checksum (m : Method) : Program := fun _ c => do
  let g ← c.read 1 "bctwz" long true
  work c m g (g.has '\x03')

open Check in
/-- Write or check mixed digests. -/
def b2sum : Program := fun _ c => do
  let g ← c.read 1 "bctwzl:" (⟨"length", .value, 'l'⟩ :: long) true
  work c (blake2b (← mixedSize c g)) g (g.has '\x03')

open Check in
/-- Write checksums of any kind. -/
def cksum : Program := fun _ c => do
  let g ← c.read 1 "a:bctwzl:"
    (⟨"algorithm", .value, 'a'⟩ :: ⟨"length", .value, 'l'⟩ :: ⟨"untagged", .nothing, '\x0e'⟩ ::
      ⟨"debug", .nothing, '\x0f'⟩ :: long) true
  match g.value? 'a' with
  | none => sums c g crcNumber
  | some v =>
    let names := ["bsd", "sysv", "crc", "md5", "sha1", "sha224", "sha256", "sha384", "sha512",
      "blake2b", "sm3"]
    match ← c.choose "--algorithm" (names.map fun n => [n]) v with
    | none =>
      c.hint
      return 1
    | some i => do
      let tagged := !g.has '\x0e'
      match i with
      | 0 => sums c g rotatedNumber
      | 1 => sums c g plainNumber
      | 2 => sums c g crcNumber
      | 3 => work c md5 g tagged
      | 4 => work c sha1 g tagged
      | 5 => work c sha224 g tagged
      | 6 => work c sha256 g tagged
      | 7 => work c sha384 g tagged
      | 8 => work c sha512 g tagged
      | _ => work c (blake2b (← mixedSize c g)) g tagged

open Check in
/-- Write plain sums. -/
def sum : Program := fun _ c => do
  let g ← c.read 1 "rs" [⟨"sysv", .nothing, 's'⟩] true
  let last := (g.options.reverse.find? fun o => o.1 = 'r' || o.1 = 's').map Prod.fst
  sums c g (if last = some 's' then plainNumber else rotatedNumber)

end StaleBuild.Utility
