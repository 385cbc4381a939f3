import StaleBuild.Host.Search
import StaleBuild.Utility.Reading

/-!
Utilities that work on blocks: copying in blocks with conversions, and cutting files into pieces.
-/

namespace StaleBuild.Utility

open Host (Str str Call Program Starter)
open Host.Quote (curly always)

/-! ## Blocks -/

/-- The blocks of a text, each of a size but for the last one. -/
def blocksWithin (size : Nat) : Nat → Str → List Str
  | 0, s => if s = [] then [] else [s]
  | fuel + 1, s => if s = [] then [] else s.take size :: blocksWithin size fuel (s.drop size)

/-- The blocks of a text. -/
def blocks (size : Nat) (s : Str) : List Str := blocksWithin size s.length s

/-! ## Copying in blocks -/

namespace Transfer

/-- What is to be copied, and how. -/
structure Plan where
  input : Option Str
  output : Option Str
  inputBlock : Nat
  outputBlock : Nat
  /-- One size for both kinds of blocks, which are not put together then. -/
  oneBlock : Bool
  conversionBlock : Nat
  /-- A count, and whether it is one of bytes. -/
  count : Option (Nat × Bool)
  skip : Nat × Bool
  seek : Nat × Bool
  conversions : List Str
  flags : List Str
  status : Str

def Plan.usual : Plan :=
  ⟨none, none, 512, 512, false, 0, none, (0, false), (0, false), [], [], str "default"⟩

/-- A text in straight quotation marks. -/
def quoted (s : Str) : Str := '\'' :: s ++ ['\'']

/-- A number with units, several of them multiplied, and whether it counts bytes. -/
def number? (s : Str) : Option (Nat × Bool) :=
  let factor? (t : Str) : Option (Nat × Bool) :=
    let digits := t.takeWhile Char.isDigit
    match Host.word (t.drop digits.length) with
    | "c" => (Host.natural? digits).map fun n => (n, false)
    | "w" => (Host.natural? digits).map fun n => (2 * n, false)
    | "B" => (Host.natural? digits).map fun n => (n, true)
    | _ => (count? t).map fun n => (n, false)
  (Host.splitOn 'x' s).foldl (fun total t =>
    match total, factor? t with
    | some (n, b), some (m, d) => some (n * m, b || d)
    | _, _ => none) (some (1, false))

def knownConversions : List String :=
  ["ascii", "ebcdic", "ibm", "block", "unblock", "lcase", "ucase", "sparse", "swab", "sync", "excl",
    "nocreat", "notrunc", "noerror", "fdatasync", "fsync"]

def knownFlags : List String :=
  ["append", "binary", "cio", "direct", "directory", "dsync", "fullblock", "nocache", "noatime", "noctty",
    "nofollow", "nolinks", "nonblock", "sync", "text", "count_bytes", "skip_bytes", "seek_bytes"]

/-- Take one operand into a plan. -/
def Plan.take (c : Call) (p : Plan) (operand : Str) : Act Plan := do
  let unknown {α : Type} : Act α := c.misused 1 (str "unrecognized operand " ++ quoted operand)
  match Host.cut '=' operand with
  | (_, none) => unknown
  | (key, some value) =>
    let listed (what : String) (known : List String) : Act (List Str) := do
      let words := Host.splitOn ',' value
      match words.find? fun w => !known.any fun k => str k = w with
      | some w => c.misused 1 (str ("invalid " ++ what ++ ": ") ++ curly w)
      | none => return words
    let number (least : Nat) : Act (Nat × Bool) := do
      match number? value with
      | some (n, b) =>
        if 2 ^ 63 ≤ n then
          c.die 1 (str "invalid number: " ++ quoted value ++ str ": Value too large for defined data type")
        else if n < least then c.die 1 (str "invalid number: " ++ quoted value)
        else return (n, b)
      | none => c.die 1 (str "invalid number: " ++ quoted value)
    match Host.word key with
    | "if" => return { p with input := some value }
    | "of" => return { p with output := some value }
    | "conv" => return { p with conversions := p.conversions ++ (← listed "conversion" knownConversions) }
    | "iflag" => return { p with flags := p.flags ++ (← listed "input flag" knownFlags) }
    | "oflag" => return { p with flags := p.flags ++ (← listed "output flag" knownFlags) }
    | "status" => do
      if ["none", "noxfer", "progress"].any fun w => str w = value then return { p with status := value }
      else c.misused 1 (str "invalid status level: " ++ curly value)
    | "ibs" => return { p with inputBlock := (← number 1).1 }
    | "obs" => return { p with outputBlock := (← number 1).1 }
    | "bs" => do
      let n := (← number 1).1
      return { p with inputBlock := n, outputBlock := n, oneBlock := true }
    | "cbs" => return { p with conversionBlock := (← number 1).1 }
    | "skip" | "iseek" => return { p with skip := ← number 0 }
    | "seek" | "oseek" => return { p with seek := ← number 0 }
    | "count" => return { p with count := some (← number 0) }
    | _ => unknown

def Plan.converts (p : Plan) (name : String) : Bool := p.conversions.contains (str name)

/-- Two conversions that cannot be done together. -/
def Plan.conflict? (p : Plan) : Option (String × String) :=
  [("ascii", "ebcdic"), ("ascii", "ibm"), ("ebcdic", "ibm"), ("block", "unblock"), ("lcase", "ucase"),
    ("excl", "nocreat")].find? fun x => p.converts x.1 && p.converts x.2

/-- Each two characters in the other order. -/
def swapped : Str → Str
  | a :: b :: rest => b :: a :: swapped rest
  | s => s

/-- Lines as blocks of a size, filled up with blanks; the number of those that were cut off. -/
def lineBlocks (size : Nat) (s : Str) : Str × Nat :=
  let lines := Host.linesOf s
  (lines.flatMap fun l => Host.padRight size (l.take size), lines.countP fun l => size < l.length)

/-- Blocks of a size as lines without blanks at their ends. -/
def blockLines (size : Nat) (s : Str) : Str :=
  (blocks size s).flatMap fun b => Host.dropEnd (· = ' ') b ++ ['\n']

/-- How many blocks are full, and how many are not. -/
def tally (size : Nat) (bs : List Str) : Str :=
  let full := bs.countP fun b => b.length = size
  Host.decimal (full : Nat) ++ '+' :: Host.decimal (bs.length - full : Nat)

/-- A number of bytes, with the rounded ones behind it. -/
def amount (n : Nat) : Str :=
  let plain := Host.decimal (n : Nat) ++ str (if n = 1 then " byte" else " bytes")
  if n < 1000 then plain
  else plain ++ str " (" ++ rounded 1000 ["kB", "MB", "GB"] ++
    (if n < 1024 then [] else str ", " ++ rounded 1024 ["KiB", "MiB", "GiB"]) ++ [')']
where
  /-- A number with one place behind the point, as long as it is short. -/
  rounded (base : Nat) (units : List String) : Str :=
    let power := if n < base * base then 1 else if n < base ^ 3 then 2 else 3
    let unit := base ^ power
    let tenths := (10 * n + unit - 1) / unit
    let digits := if tenths < 100 then Host.decimal (tenths / 10 : Nat) ++ '.' :: Host.decimal (tenths % 10 : Nat)
      else Host.decimal ((n + unit - 1) / unit : Nat)
    digits ++ ' ' :: str (units.getD (power - 1) "")

end Transfer

open Transfer in
/-- Copy in blocks. -/
def dd : Program := fun _ c => do
  let g ← c.read 1 "" [] true
  let mut p := Plan.usual
  for o in g.operands do
    p ← p.take c o
  match p.conflict? with
  | some (a, b) => c.die 1 (str ("cannot combine " ++ a ++ " and " ++ b))
  | none => pure ()
  let shownInput := match p.input with
    | some path => always path
    | none => str "'standard input'"
  let shownOutput := match p.output with
    | some path => always path
    | none => str "'standard output'"
  -- the two files
  let input ← match p.input with
    | none => pure ((← get).descriptor? 0)
    | some path =>
      match ← Act.openPath path .read with
      | .ok file => pure (some file)
      | .error cause => c.die 1 (str "failed to open " ++ always path ++ str ": " ++ Host.reason cause)
  let place (x : Nat × Bool) (flag : String) (size : Nat) : Nat :=
    if x.2 || p.flags.contains (str flag) then x.1 else x.1 * size
  let start := place p.seek "seek_bytes" p.outputBlock
  let output ← match p.output with
    | none => do
      match (← get).descriptor? 1 with
      | some file => do
        if (← get).isSeekable file then modify fun h => h.advance file start
        pure (some file)
      | none => pure none
    | some path => do
      let isThere := (← Act.tree).isPresent (Host.pathOf path)
      if isThere && p.converts "excl" then
        c.die 1 (str "failed to open " ++ always path ++ str ": File exists")
      if !isThere && p.converts "nocreat" then
        c.die 1 (str "failed to open " ++ always path ++ str ": No such file or directory")
      match ← Act.openPath path (if p.flags.contains (str "append") then .append else .both) with
      | .error cause => c.die 1 (str "failed to open " ++ always path ++ str ": " ++ Host.reason cause)
      | .ok file => do
        let h ← get
        match h.opened[file]? with
        | some ⟨.file loc, _, appends, _, _⟩ => do
          match h.files.get? loc with
          | some ⟨.file contents, _, _, _⟩ => do
            if !p.converts "notrunc" && !appends then
              let kept := contents.take start ++ List.replicate (start - contents.length) 0
              Act.setTree (h.files.fill loc kept h.clock)
          | _ => pure ()
          modify fun h => h.advance file start
        | _ => pure ()
        pure (some file)
  -- what is read
  let read ← match input with
    | none => pure (Except.error FileError.badDescriptor)
    | some file => pure ((← get).remaining file)
  let mut status := 0
  let text ← match read with
    | .ok s => pure s
    | .error cause => do
      c.warn (str "error reading " ++ shownInput ++ str ": " ++ Host.reason cause)
      pure []
  if let .error _ := read then status := 1
  let skipped := place p.skip "skip_bytes" p.inputBlock
  if text.length < skipped && status = 0 then
    c.warn (p.input.getD (str "'standard input'") ++ str ": cannot skip to specified offset")
  let rest := text.drop skipped
  let wanted := match p.count with
    | none => rest
    | some (n, isBytes) =>
      rest.take (if isBytes || p.flags.contains (str "count_bytes") then n else n * p.inputBlock)
  match input with
  | some file => modify fun h => h.advance file (skipped + wanted.length)
  | none => pure ()
  let taken := blocks p.inputBlock wanted
  -- what becomes of it
  let fill : Char := if p.converts "block" || p.converts "unblock" then ' ' else '\x00'
  let padded := if p.converts "sync" then
      taken.map fun b => b ++ Host.run (p.inputBlock - b.length) fill
    else taken
  let turned := if p.converts "swab" then swapped padded.flatten else padded.flatten
  let cased :=
    if p.converts "lcase" then Host.toLower turned else if p.converts "ucase" then Host.toUpper turned else turned
  let isBlocked := p.conversionBlock ≠ 0 && p.converts "block"
  let isUnblocked := p.conversionBlock ≠ 0 && p.converts "unblock"
  let (whole, truncated) : Str × Nat :=
    if isBlocked then lineBlocks p.conversionBlock cased
    else if isUnblocked then (blockLines p.conversionBlock cased, 0)
    else (cased, 0)
  let mut given := if p.oneBlock && !isBlocked && !isUnblocked then padded else blocks p.outputBlock whole
  match output with
  | none => status := 1
  | some file =>
    match (← get).writeTo file whole with
    | .ok h => set h
    | .error cause => do
      c.warn (str "error writing " ++ shownOutput ++ str ": " ++ Host.reason cause)
      status := 1
      given := []
  -- the account
  if p.status ≠ str "none" then
    Act.complain (tally p.inputBlock taken ++ str " records in\n" ++ tally p.outputBlock given ++
      str " records out\n")
    if truncated ≠ 0 then
      Act.complain (Host.decimal (truncated : Nat) ++
        str (if truncated = 1 then " truncated record\n" else " truncated records\n"))
    if p.status ≠ str "noxfer" then
      Act.complain (amount given.flatten.length ++ str " copied, 0.0001 s, 1.0 MB/s\n")
  return status

/-! ## Pieces -/

namespace Piece

/-- How a file is cut. -/
inductive Cut where
  | lines (n : Nat)
  | bytes (n : Nat)
  /-- As many whole lines as fit. -/
  | lineBytes (n : Nat)
  /-- A number of pieces of one size. -/
  | parts (n : Nat)
  /-- A number of pieces of whole lines. -/
  | lineParts (n : Nat)
  /-- A number of pieces that get lines in turn. -/
  | turns (n : Nat)

/-- Lines put together as long as they fit; what is longer than a piece is cut. -/
def packed (size : Nat) : Str → List Str → List Str
  | piece, [] => if piece = [] then [] else [piece]
  | piece, l :: rest =>
    if piece.length + l.length ≤ size then packed size (piece ++ l) rest
    else
      let done : List Str := if piece = [] then [] else [piece]
      if l.length ≤ size then done ++ packed size l rest
      else
        let bs := blocks size l
        done ++ bs.dropLast ++ packed size (bs.getLast?.getD []) rest

/-- The lines of a text by the piece that they start in. -/
def byStart (size n : Nat) : Nat → List Str → List (Nat × Str)
  | _, [] => []
  | offset, l :: rest => (min (n - 1) (offset / size), l) :: byStart size n (offset + l.length) rest

/-- Every so many lines together. -/
def grouped (n : Nat) : Nat → List Str → List Str
  | 0, _ => []
  | _, [] => []
  | fuel + 1, ls => (ls.take n).flatten :: grouped n fuel (ls.drop n)

/-- The pieces of a text. -/
def Cut.pieces (k : Cut) (mark : Char) (s : Str) : List Str :=
  let lines := linesEndedBy mark s
  match k with
  | .lines n => grouped n (lines.length + 1) lines
  | .bytes n => blocks n s
  | .lineBytes n => packed n [] lines
  | .parts n =>
    let size := max 1 (s.length / n)
    (List.range n).map fun i =>
      if i + 1 = n then s.drop (i * size) else (s.drop (i * size)).take size
  | .lineParts n =>
    let placed := byStart (max 1 (s.length / n)) n 0 lines
    (List.range n).map fun i => (placed.filter fun x => x.1 = i).flatMap Prod.snd
  | .turns n =>
    (List.range n).map fun i => (lines.zipIdx.filter fun x => x.2 % n = i).flatMap Prod.fst

/-- A number in letters of an alphabet with a width. -/
def inAlphabet (alphabet : Str) : Nat → Nat → Str
  | 0, _ => []
  | width + 1, n => inAlphabet alphabet width (n / alphabet.length) ++ [alphabet.getD (n % alphabet.length) 'a']

/-- The ending of the piece of a number. Without a width the endings get longer before they are used up:
those that start with the last letter are kept for longer ones. -/
def ending (alphabet : Str) (width : Option Nat) (n : Nat) : Option Str :=
  let size := alphabet.length
  match width with
  | some w => if n < size ^ w then some (inAlphabet alphabet w n) else none
  | none => some (widening alphabet 64 2 n)
where
  /-- An ending that is as wide as its number needs. -/
  widening (alphabet : Str) : Nat → Nat → Nat → Str
    | 0, w, n => inAlphabet alphabet w n
    | fuel + 1, w, n =>
      let room := (alphabet.length - 1) * alphabet.length ^ (w - 1)
      if n < room then inAlphabet alphabet w n
      else (alphabet.getLast?.getD 'z') :: widening alphabet fuel (w + 1) (n - room)

end Piece

open Piece in
/-- Cut a file into pieces. -/
def split : Program := fun start c => do
  -- a number behind a dash counts lines
  let isCount (a : Str) : Bool := match a with
    | '-' :: ds => ds ≠ [] && ds.all Char.isDigit
    | _ => false
  let args := c.args.flatMap fun a => if isCount a then [str "-l", a.drop 1] else [a]
  let g ← { c with args }.read 1 "a:b:C:d::el:n:t:ux::"
    [⟨"bytes", .value, 'b'⟩, ⟨"lines", .value, 'l'⟩, ⟨"line-bytes", .value, 'C'⟩, ⟨"number", .value, 'n'⟩,
      ⟨"elide-empty-files", .nothing, 'e'⟩, ⟨"unbuffered", .nothing, 'u'⟩, ⟨"suffix-length", .value, 'a'⟩,
      ⟨"additional-suffix", .value, '\x03'⟩, ⟨"numeric-suffixes", .maybe, 'd'⟩,
      ⟨"hex-suffixes", .maybe, 'x'⟩, ⟨"filter", .value, '\x04'⟩, ⟨"verbose", .nothing, '\x05'⟩,
      ⟨"separator", .value, 't'⟩] true
  let mut cut : Option Cut := none
  let mut only : Option Nat := none
  let mut width : Option Nat := none
  for (o, v) in g.options do
    let v := v.getD []
    let counted (what : String) : Act Nat := do
      match count? v with
      | some n => if n = 0 then c.die 1 (str ("invalid number of " ++ what ++ ": ") ++ curly v) else return n
      | none => c.die 1 (str ("invalid number of " ++ what ++ ": ") ++ curly v)
    if "lbCn".toList.contains o && cut.isSome then c.misused 1 (str "cannot split in more than one way")
    match o with
    | 'l' => cut := some (.lines (← counted "lines"))
    | 'b' => cut := some (.bytes (← counted "bytes"))
    | 'C' => cut := some (.lineBytes (← counted "lines"))
    | 'n' => do
      let parts := Host.splitOn '/' v
      let (kind, numbers) := match parts with
        | ['l'] :: rest => ('l', rest)
        | ['r'] :: rest => ('r', rest)
        | rest => ('b', rest)
      let whole (s : Str) : Act Nat := do
        match Host.natural? s with
        | some n => if n = 0 then c.die 1 (str "invalid number of chunks: " ++ curly s) else return n
        | none => c.die 1 (str "invalid number of chunks: " ++ curly s)
      let n ← match numbers with
        | [n] => whole n
        | [k, n] => do
          let n ← whole n
          match Host.natural? k with
          | some k =>
            if k = 0 || n < k then c.die 1 (str "invalid chunk number: " ++ curly (Host.decimal (k : Nat)))
            only := some (k - 1)
          | none => c.die 1 (str "invalid chunk number: " ++ curly k)
          pure n
        | _ => c.die 1 (str "invalid number of chunks: " ++ curly v)
      cut := some (if kind = 'l' then .lineParts n else if kind = 'r' then .turns n else .parts n)
    | 'a' =>
      match Host.natural? v with
      | some n => width := if n = 0 then none else some n
      | none => c.die 1 (str "invalid suffix length: " ++ curly v)
    | _ => pure ()
  match g.operands with
  | _ :: _ :: extra :: _ => c.misused 1 (str "extra operand " ++ curly extra)
  | _ => pure ()
  let source := g.operands.headD ['-']
  let base := (g.operands.drop 1).headD ['x']
  let text ← match ← Call.readOperand source with
    | .ok s => pure s
    | .error .isADirectory => c.die 1 (source ++ str ": Is a directory")
    | .error cause => c.die 1 (str "cannot open " ++ always source ++ str " for reading: " ++ Host.reason cause)
  let mark := match g.value? 't' with
    | some [m] => m
    | some ['\\', '0'] => '\x00'
    | _ => '\n'
  let manner := cut.getD (.lines 1000)
  let pieces := manner.pieces mark text
  match only with
  | some k => do
    Act.say (pieces.getD k [])
    return 0
  | none => do
    let shown := pieces.filter fun p => !(g.has 'e' && p = [])
    let numeric := g.last? ['d', 'x']
    let alphabet : Str := match numeric with
      | some 'd' => "0123456789".toList
      | some _ => "0123456789abcdef".toList
      | none => "abcdefghijklmnopqrstuvwxyz".toList
    let first := ((numeric.bind g.value?).bind fun s =>
      Host.naturalIn? (if numeric = some 'x' then 16 else 10) s).getD 0
    -- a number of pieces and a first number fix the width
    let fixed := match width, manner with
      | some w, _ => some w
      | none, .parts n | none, .lineParts n | none, .turns n =>
        some (max 2 (Nat.toDigits alphabet.length (n - 1)).length)
      | none, _ => if first = 0 then none else some 2
    for (p, i) in shown.zipIdx do
      match ending alphabet fixed (first + i) with
      | none => c.die 1 (str "output file suffixes exhausted")
      | some e => do
        let name := base ++ e ++ (g.value? '\x03').getD []
        match g.value? '\x04' with
        | some command => do
          let before := (← get).process
          modify fun h =>
            let (file, h) := h.openNew ⟨.text p, 0, false, true, false⟩
            let h := h.withDescriptor 0 (some file)
            { h with process := { h.process with environment := (str "FILE", name) :: h.process.environment } }
          let _ ← start (str "/bin/sh") [str "sh", str "-c", command]
          modify fun h => { h with process := { h.process with
            descriptors := before.descriptors, environment := before.environment } }
        | none => do
          if g.has '\x05' then Act.say (str "creating file " ++ always name ++ ['\n'])
          match ← Act.writePath name p .write with
          | .ok () => pure ()
          | .error cause => c.die 1 (name ++ str ": " ++ Host.reason cause)
    return 0

end StaleBuild.Utility
