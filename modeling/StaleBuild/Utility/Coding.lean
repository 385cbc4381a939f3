import StaleBuild.Utility.Reading

/-!
Utilities that show bytes: dumps in numbers and names, and text in alphabets of 64 or 32 characters, both
ways.
-/

namespace StaleBuild.Utility

open Host (Str str Call Program Given)
open Host.Quote (beforeColon curly)

namespace Dump

/-- How bytes are shown. -/
inductive Kind where
  /-- Characters, with backslashes for those that cannot be shown. -/
  | char
  /-- Names of characters of seven bits. -/
  | name
  /-- Numbers, which can have signs, in a base. -/
  | number (signed : Bool) (base : Nat)
  deriving DecidableEq

/-- A way to show data of so many bytes; whether characters stand behind the line. -/
structure Form where
  kind : Kind
  size : Nat
  trailer : Bool

/-- How wide a datum is. -/
def Form.width (f : Form) : Nat :=
  match f.kind with
  | .char | .name => 3
  | .number signed base =>
    let most := 256 ^ f.size - 1
    if signed then (Host.decimal ((most + 1) / 2 : Nat)).length + 1
    else (Nat.toDigits base most).length

/-- The names of the first characters. -/
def controlNames : List String :=
  ["nul", "soh", "stx", "etx", "eot", "enq", "ack", "bel", "bs", "ht", "nl", "vt", "ff", "cr", "so",
    "si", "dle", "dc1", "dc2", "dc3", "dc4", "nak", "syn", "etb", "can", "em", "sub", "esc", "fs",
    "gs", "rs", "us", "sp"]

/-- A datum of bytes, the lowest one first. -/
def Form.shown (f : Form) (bytes : Str) : Str :=
  match f.kind with
  | .char =>
    bytes.flatMap fun c => match c with
      | '\x00' => str "\\0"
      | '\x07' => str "\\a"
      | '\x08' => str "\\b"
      | '\x0c' => str "\\f"
      | '\n' => str "\\n"
      | '\r' => str "\\r"
      | '\t' => str "\\t"
      | '\x0b' => str "\\v"
      | c => if Host.Quote.isShown [c] then [c] else Host.Quote.octal c
  | .name =>
    bytes.flatMap fun c =>
      let n := c.toNat % 128
      if n = 127 then str "del"
      else if n < 33 then str (controlNames.getD n "")
      else [Char.ofNat n]
  | .number signed base =>
    let n : Nat := bytes.foldr (fun c n => n * 256 + c.toNat) 0
    if signed then
      let half := 256 ^ f.size / 2
      if n < half then Host.decimal n else Host.decimal ((n : Int) - 2 * half)
    else if base = 10 then Host.decimal n
    else
      let digits := Host.digitsIn base n
      Host.run (f.width - digits.length) '0' ++ digits

/-- The size behind a letter of a type: a letter or digits. -/
def sizeOf (usual : Nat) (s : Str) : Except Str (Nat × Str) :=
  match s with
  | 'C' :: rest => .ok (1, rest)
  | 'S' :: rest => .ok (2, rest)
  | 'I' :: rest => .ok (4, rest)
  | 'L' :: rest => .ok (8, rest)
  | s =>
    let digits := s.takeWhile Char.isDigit
    match Host.natural? digits with
    | none => .ok (usual, s)
    | some n =>
      if n = 1 || n = 2 || n = 4 || n = 8 then .ok (n, s.drop digits.length)
      else .error digits

/-- The forms that a type spells; the error is a complaint. -/
def forms (whole : Str) : Nat → Str → Except Str (List Form)
  | 0, _ => .ok []
  | _, [] => .ok []
  | fuel + 1, c :: rest => do
    let (kind, size, rest) ← match c with
      | 'a' => pure (Kind.name, 1, rest)
      | 'c' => pure (Kind.char, 1, rest)
      | c =>
        let kind : Option Kind := match c with
          | 'd' => some (.number true 10)
          | 'o' => some (.number false 8)
          | 'u' => some (.number false 10)
          | 'x' => some (.number false 16)
          | _ => none
        match kind with
        | none =>
          .error (str "invalid character '" ++ c :: str "' in type string " ++ curly whole)
        | some kind =>
          match sizeOf 4 rest with
          | .ok (n, rest) => pure (kind, n, rest)
          | .error digits =>
            .error (str "invalid type string " ++ curly whole ++
              str ";\nthis system doesn't provide a " ++ digits ++ str "-byte integral type")
    let (trailer, rest) := match rest with
      | 'z' :: rest => (true, rest)
      | rest => (false, rest)
    return ⟨kind, size, trailer⟩ :: (← forms whole fuel rest)

/-- The type that an old option stands for. -/
def old? : Char → Option String
  | 'a' => some "a"
  | 'b' => some "o1"
  | 'B' => some "o2"
  | 'c' => some "c"
  | 'd' => some "u2"
  | 'D' => some "u4"
  | 'h' => some "x2"
  | 'H' => some "x4"
  | 'i' => some "d4"
  | 'I' => some "d8"
  | 'l' => some "d8"
  | 'L' => some "d8"
  | 'o' => some "o2"
  | 'O' => some "o4"
  | 's' => some "d2"
  | 'x' => some "x2"
  | 'X' => some "x4"
  | _ => none

/-- An offset in the base of the addresses. -/
def address (base : Char) (n : Nat) : Str :=
  let digits (b width : Nat) : Str :=
    let ds := Host.digitsIn b n
    Host.run (width - ds.length) '0' ++ ds
  match base with
  | 'd' => digits 10 7
  | 'x' => digits 16 6
  | 'n' => []
  | _ => digits 8 7

/-- A line of data in a form, for a block of so many bytes. -/
def Form.line (f : Form) (bigFirst : Bool) (blockSize blockWidth : Nat) (bytes : Str) : Str :=
  let fields := blockSize / f.size
  let used := (bytes.length + f.size - 1) / f.size
  let pad := blockWidth - f.width * fields
  let filled := bytes ++ Host.run (used * f.size - bytes.length) '\x00'
  let cells := (List.range used).flatMap fun k =>
    let datum := (filled.drop (k * f.size)).take f.size
    -- the blanks are shared out among the fields from the last one on
    let before := pad * (fields - k) / fields
    let after := pad * (fields - k - 1) / fields
    Host.padLeft (before - after + f.width) (f.shown (if bigFirst then datum.reverse else datum))
  let trailer :=
    if f.trailer then
      let blank := fields - used
      Host.run (blank * f.width + pad * blank / fields) ' ' ++ str "  >" ++
        bytes.map (fun c => if Host.Quote.isShown [c] then c else '.') ++ ['<']
    else []
  cells ++ trailer

/-- A dump of a text. -/
def dumped (fs : List Form) (base : Char) (bigFirst keepsAll : Bool) (blockSize : Nat) (start : Nat)
    (text : Str) : Str :=
  let blockWidth := (fs.map fun f => (f.width + 1) * (blockSize / f.size)).foldl max 0
  let lead := Host.run (address base 0).length ' '
  let block (offset : Nat) (bytes : Str) : Str :=
    (fs.zipIdx.flatMap fun (f, i) =>
      (if i = 0 then address base offset else lead) ++ f.line bigFirst blockSize blockWidth bytes ++ ['\n'])
  let rec go : Nat → Nat → Option Str → Bool → Str → List Str → Str
    | 0, _, _, _, _, out => out.reverse.flatten
    | _, offset, _, _, [], out =>
      out.reverse.flatten ++ (if base = 'n' then [] else address base offset ++ ['\n'])
    | fuel + 1, offset, last, starred, text, out =>
      let bytes := text.take blockSize
      let rest := text.drop blockSize
      if !keepsAll && last = some bytes && bytes.length = blockSize then
        go fuel (offset + bytes.length) last true rest (if starred then out else ['*', '\n'] :: out)
      else go fuel (offset + bytes.length) (some bytes) false rest (block offset bytes :: out)
  go (text.length + 2) start none false text []

/-- What is dumped of a text when a file breaks off at an offset: the block in which that happens, if it is
full, is the last one, and the one before it comes once more. -/
def cutOff (blockSize offset : Nat) (text : Str) : Str :=
  let k := offset / blockSize
  let last := (k + 1) * blockSize
  if text.length < last then text
  else
    text.take last ++ if k = 0 then Host.run blockSize '\x00'
      else (text.drop ((k - 1) * blockSize)).take blockSize

/-- The runs of characters that can be shown, with their offsets. -/
def stringsIn (least : Nat) : Nat → Nat → Str → Str → List (Nat × Str)
  | 0, _, _, _ => []
  | _, _, _, [] => []
  | fuel + 1, offset, kept, c :: rest =>
    if Host.Quote.isShown [c] then stringsIn least fuel (offset + 1) (c :: kept) rest
    else
      let found := if c = '\x00' && least ≤ kept.length then [(offset - kept.length, kept.reverse)] else []
      found ++ stringsIn least fuel (offset + 1) [] rest

/-- An offset as an operand gives it. -/
def offset? (s : Str) : Option Nat :=
  let body := match s with
    | '+' :: rest => rest
    | rest => rest
  let (body, unit) := match body.reverse with
    | 'b' :: rest => (rest.reverse, 512)
    | _ => (body, 1)
  let n := match body with
    | '0' :: 'x' :: ds => Host.naturalIn? 16 ds
    | body =>
      match body.reverse with
      | '.' :: ds => Host.naturalIn? 10 ds.reverse
      | _ => Host.naturalIn? 8 body
  n.map (· * unit)

def letters : String := "A:aBbcDdeFfHhIij:LlN:OoS:st:vw::Xx"

def long : List Host.LongOption :=
  [⟨"skip-bytes", .value, 'j'⟩, ⟨"address-radix", .value, 'A'⟩, ⟨"read-bytes", .value, 'N'⟩,
    ⟨"format", .value, 't'⟩, ⟨"output-duplicates", .nothing, 'v'⟩, ⟨"strings", .maybe, 'S'⟩,
    ⟨"traditional", .nothing, '\x03'⟩, ⟨"width", .maybe, 'w'⟩, ⟨"endian", .value, '\x04'⟩]

end Dump

open Dump in
/-- Show bytes in numbers. -/
def od : Program := fun _ c => do
  let g ← c.read 1 letters long true
  let number (letter : Char) : Act (Option Nat) := do
    match g.value? letter with
    | none => return none
    | some s =>
      match (match s with
        | '0' :: 'x' :: ds => Host.naturalIn? 16 ds
        | '0' :: ds => if ds.all Char.isDigit && ds ≠ [] then Host.naturalIn? 8 ds else count? s
        | s => count? s) with
      | some n => return some n
      | none => c.die 1 (str "invalid -" ++ letter :: str " argument '" ++ s ++ ['\''])
  let base ← match g.value? 'A' with
    | none => pure 'o'
    | some (b :: _) =>
      if ['d', 'o', 'x', 'n'].contains b then pure b
      else c.die 1 (str "invalid output address radix '" ++ b ::
        str "'; it must be one character from [doxn]")
    | some [] => c.die 1 (str
      "invalid output address radix '\x00'; it must be one character from [doxn]")
  let skip ← number 'j'
  let limit ← number 'N'
  let shortest ← number 'S'
  let bigFirst ← match g.value? '\x04' with
    | none => pure false
    | some v =>
      match ← c.choose "--endian" [["little"], ["big"]] v with
      | some i => pure (i = 1)
      | none =>
        c.hint
        Act.exit 1
  let mut fs : List Form := []
  for (letter, value) in g.options do
    let spec : Option Str := if letter = 't' then value else (old? letter).map str
    match spec with
    | none => pure ()
    | some s =>
      match forms s (s.length + 1) s with
      | .ok more => fs := fs ++ more
      | .error complaint => c.die 1 complaint
  if fs = [] then fs := [⟨.number false 8, 2, false⟩]
  -- without a type, a last operand can be an offset
  let plain := g.options.all fun o => "bcdosx".toList.contains o.1
  let (operands, skip) := match g.operands with
    | [o] => if plain && o.head? = some '+' && (offset? o).isSome then ([], offset? o) else ([o], skip)
    | [f, o] =>
      if plain && (o.head? = some '+' || o.head?.any Char.isDigit) && (offset? o).isSome then
        ([f], offset? o)
      else ([f, o], skip)
    | os => (os, skip)
  let largest := (fs.map Form.size).foldl max 1
  let usual := 16 / largest * largest
  let blockSize ← match g.options.reverse.find? fun o => o.1 = 'w' with
    | none => pure usual
    | some (_, none) => pure 32
    | some (_, some s) =>
      match Host.natural? s with
      | some n =>
        if 0 < n && n % largest = 0 then pure n
        else do
          c.warn (str "warning: invalid width " ++ Host.decimal n ++ str "; using " ++
            Host.decimal (largest : Nat) ++ str " instead")
          pure largest
      | none => c.die 1 (str "invalid -w argument '" ++ s ++ ['\''])
  let mut texts : List Str := []
  let mut status := 0
  -- where a file breaks off that has been opened
  let mut broken : Option Nat := none
  for o in Call.orInput operands do
    match ← Call.readOperand o with
    | .ok text => texts := text :: texts
    | .error cause =>
      c.warn (beforeColon o ++ str ": " ++ Host.reason cause)
      status := 1
      if cause = .isADirectory then
        broken := broken.or (some texts.flatten.length)
  let text := texts.reverse.flatten
  let start := skip.getD 0
  if text.length < start then c.die 1 (str "cannot skip past end of combined input")
  let text := text.drop start
  let text := match limit with
    | some n => text.take n
    | none => text
  let text := match broken with
    | some n => cutOff blockSize n text
    | none => text
  match shortest with
  | some least =>
    for (offset, s) in stringsIn least (text.length + 1) start [] text do
      Act.say ((if base = 'n' then [] else address base offset ++ [' ']) ++ s ++ ['\n'])
  | none => Act.say (dumped fs base bigFirst (g.has 'v') blockSize start text)
  return status

/-! ## Alphabets -/

namespace Alphabet

/-- A way to write bytes in characters: the characters, how many bits each stands for, how many make a
group, and whether a group that breaks off is read as far as it goes. -/
structure Code where
  digits : List Char
  bits : Nat
  group : Nat
  readsParts : Bool

def base64 : Code :=
  ⟨"ABCDEFGHIJKLMNOPQRSTUVWXYZabcdefghijklmnopqrstuvwxyz0123456789+/".toList, 6, 4, true⟩

def base32 : Code := ⟨"ABCDEFGHIJKLMNOPQRSTUVWXYZ234567".toList, 5, 8, false⟩

def base16 : Code := ⟨"0123456789ABCDEF".toList, 4, 2, false⟩

/-- The codes by the names of the options that choose them. -/
def named : List (String × Char × Code) :=
  [("base64", 'A', base64), ("base64url", 'B', { base64 with digits := base64.digits.take 62 ++ ['-', '_'] }),
    ("base32", 'C', base32),
    ("base32hex", 'D', { base32 with digits := "0123456789ABCDEFGHIJKLMNOPQRSTUV".toList }),
    ("base16", 'E', base16), ("base2msbf", 'F', ⟨['0', '1'], 1, 8, false⟩)]

/-- How many bytes a group stands for. -/
def Code.bytes (k : Code) : Nat := k.bits * k.group / 8

/-- The characters for a group of bytes, which can be too short. -/
def Code.encodeGroup (k : Code) (bytes : Str) : Str :=
  let filled := bytes ++ Host.run (k.bytes - bytes.length) '\x00'
  let n := filled.foldl (fun n c => n * 256 + c.toNat) 0
  let used := (8 * bytes.length + k.bits - 1) / k.bits
  (List.range k.group).map fun i =>
    if i < used then k.digits.getD (n / 2 ^ (k.bits * (k.group - 1 - i)) % 2 ^ k.bits) '=' else '='

/-- A text in groups of a length. -/
def groups (size : Nat) : Nat → Str → List Str
  | 0, _ => []
  | _, [] => []
  | fuel + 1, s => s.take size :: groups size fuel (s.drop size)

/-- A text in the characters of a code. -/
def Code.encode (k : Code) (text : Str) : Str :=
  (groups k.bytes text.length text).flatMap k.encodeGroup

/-- The bytes that a group stands for, and whether it is whole and right. -/
def Code.decodeGroup (k : Code) (s : Str) : Str × Bool :=
  let body := s.takeWhile k.digits.contains
  let padding := s.drop body.length
  let whole := s.length = k.group && padding.all (· = '=')
  let n := body.foldl (fun n c => n * 2 ^ k.bits + k.digits.idxOf c) 0
  let bits := body.length * k.bits
  let count := bits / 8
  let value := n / 2 ^ (bits % 8)
  let bytes := (List.range count).map fun i => Char.ofNat (value / 256 ^ (count - 1 - i) % 256)
  if s.length < k.group && !k.readsParts then ([], false)
  else (bytes, whole && bits % 8 < k.bits)

/-- The bytes of groups, up to the first one that is wrong. -/
def Code.decode (k : Code) : List Str → Str × Bool
  | [] => ([], true)
  | g :: rest =>
    match k.decodeGroup g with
    | (bytes, true) =>
      let (more, right) := k.decode rest
      (bytes ++ more, right)
    | (bytes, false) => (bytes, false)

/-- Lines of a width; a width of zero leaves everything on one line without an end. -/
def wrapped (width : Nat) (s : Str) : Str :=
  if width = 0 then s else Host.unlines (groups width s.length s)

end Alphabet

namespace Alphabet

/-- The options of all programs that write in codes. -/
def options : List Host.LongOption :=
  [⟨"decode", .nothing, 'd'⟩, ⟨"wrap", .value, 'w'⟩, ⟨"ignore-garbage", .nothing, 'i'⟩]

/-- Write a text in the characters of a code, or read it back. -/
def recode (k : Code) (c : Call) (g : Host.Given) : Act Nat := do
  let width ← match g.value? 'w' with
    | none => pure 76
    | some s =>
      match Host.natural? s with
      | some n => pure n
      | none => c.die 1 (str "invalid wrap size: " ++ curly s)
  match g.operands with
  | _ :: extra :: _ => c.misused 1 (str "extra operand " ++ curly extra)
  | operands =>
    let o := operands.headD ['-']
    match ← Call.readOperand o with
    | .error .isADirectory => c.die 1 (str "read error: " ++ Host.reason .isADirectory)
    | .error cause => c.die 1 (beforeColon o ++ str ": " ++ Host.reason cause)
    | .ok text =>
      if g.has 'd' then
        let text := if g.has 'i' then text.filter fun ch => k.digits.contains ch || ch = '='
          else text.filter (· ≠ '\n')
        match k.decode (groups k.group text.length text) with
        | (bytes, true) => Act.say bytes
        | (bytes, false) => do
          Act.say bytes
          c.die 1 (str "invalid input")
      else Act.say (wrapped width (k.encode text))
      return 0

end Alphabet

open Alphabet in
/-- Write a text in the characters of a code, or read it back. -/
def coding (k : Code) : Program := fun _ c => do
  recode k c (← c.read 1 "diw:" options true)

open Alphabet in
/-- The same for the code that an option chooses. -/
def basenc : Program := fun _ c => do
  let g ← c.read 1 "diw:" (named.map (fun n => ⟨n.1, .nothing, n.2.1⟩) ++ options) true
  match g.last? (named.map fun n => n.2.1) with
  | none => c.misused 1 (str "missing encoding type")
  | some letter =>
    match named.find? fun n => n.2.1 = letter with
    | some (_, _, k) => recode k c g
    | none => return 1

end StaleBuild.Utility
