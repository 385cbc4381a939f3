import StaleBuild.Host.Options

/-!
Utilities that write what they read, whole or in part, in another order, or only its measures.

`Utility` holds the programs of the system that the command of a build, or a script, may start. They are
there for the running program: a build asks a launcher for what a command does, and what is proved of
builds holds for every launcher.
-/

namespace StaleBuild.Utility

open Host (Str str Call Program Given)

/-! ## Operands -/

/-- Read an operand, where a dash stands for the input; a failure is said in the way of most programs,
with the name in front of the cause. -/
def contentsOf (c : Call) (operand : Str) : Act (Option Str) := do
  match ← Call.readOperand operand with
  | .ok text => return some text
  | .error cause => do
    c.warn (Host.Quote.beforeColon operand ++ str ": " ++ Host.reason cause)
    return none

/-- Do something with each operand that can be read; the status tells whether all could be. -/
def eachText (c : Call) (operands : List Str) (f : Str → Str → Act Unit) : Act Nat := do
  let mut status := 0
  for o in Call.orInput operands do
    match ← contentsOf c o with
    | some text => f o text
    | none => status := 1
  return status

/-- A count with a unit behind it. -/
def count? (s : Str) : Option Nat :=
  let digits := s.takeWhile Char.isDigit
  let unit : Option Nat := match Host.word (s.drop digits.length) with
    | "" => some 1
    | "b" => some 512
    | "k" => some 1024
    | "K" => some 1024
    | "KiB" => some 1024
    | "kB" => some 1000
    | "KB" => some 1000
    | "m" => some (1024 ^ 2)
    | "M" => some (1024 ^ 2)
    | "MiB" => some (1024 ^ 2)
    | "MB" => some (1000 ^ 2)
    | "G" => some (1024 ^ 3)
    | "GiB" => some (1024 ^ 3)
    | "GB" => some (1000 ^ 3)
    | "T" => some (1024 ^ 4)
    | "P" => some (1024 ^ 5)
    | "E" => some (1024 ^ 6)
    | _ => none
  match Host.natural? digits, unit with
  | some n, some u => some (n * u)
  | _, _ => none

/-! ## Whole files -/

/-- How lines are written with marks. -/
structure Marking where
  numbers : Bool
  numbersFilled : Bool
  ends : Bool
  tabs : Bool
  controls : Bool
  squeezes : Bool

/-- A character that is shown by a caret or by the mark of a high byte. -/
def caret (c : Char) : Str :=
  let low (n : Nat) : Str :=
    if n < 32 then ['^', Char.ofNat (n + 64)] else if n = 127 then ['^', '?'] else [Char.ofNat n]
  if c.toNat < 128 then low c.toNat else str "M-" ++ low (c.toNat - 128)

/-- Lines with marks; the number of the last line, and whether it was empty, go on. -/
def marked (k : Marking) (state : Nat × Bool) (text : Str) : Str × Nat × Bool :=
  let step (acc : List Str × Nat × Bool) (line : Str) : List Str × Nat × Bool :=
    let (out, n, wasEmpty) := acc
    let isEmpty := line = ['\n']
    if k.squeezes && isEmpty && wasEmpty then (out, n, true)
    else
      let counted := (k.numbersFilled && !isEmpty) || (k.numbers && !k.numbersFilled)
      let n := if counted then n + 1 else n
      let front := if counted then Host.padLeft 6 (Host.decimal n) ++ ['\t'] else []
      let body := (Host.chomp line).flatMap fun c =>
        if c = '\t' then (if k.tabs then ['^', 'I'] else [c]) else if k.controls then caret c else [c]
      let broken := line.getLast? = some '\n'
      let behind := if broken then (if k.ends then ['$', '\n'] else ['\n']) else []
      ((front ++ body ++ behind) :: out, n, isEmpty)
  let (out, n, wasEmpty) := (Host.splitLines text).foldl step ([], state)
  (out.reverse.flatten, n, wasEmpty)

/-- Write files one behind the other. -/
def cat : Program := fun _ c => do
  let g ← c.read 1 "benstuvAET"
    [⟨"number", .nothing, 'n'⟩, ⟨"number-nonblank", .nothing, 'b'⟩, ⟨"squeeze-blank", .nothing, 's'⟩,
      ⟨"show-nonprinting", .nothing, 'v'⟩, ⟨"show-ends", .nothing, 'E'⟩, ⟨"show-tabs", .nothing, 'T'⟩,
      ⟨"show-all", .nothing, 'A'⟩] true
  let has := g.has
  let k : Marking := ⟨has 'n', has 'b', has 'e' || has 'E' || has 'A', has 't' || has 'T' || has 'A',
    has 'v' || has 'e' || has 't' || has 'A', has 's'⟩
  let plain := !(k.numbers || k.numbersFilled || k.ends || k.tabs || k.controls || k.squeezes)
  let mut state := (0, false)
  let mut status := 0
  for o in Call.orInput g.operands do
    match ← contentsOf c o with
    | none => status := 1
    | some text =>
      let (out, next) := if plain then (text, state) else marked k state text
      state := next
      if out ≠ [] then
        match (← get).writeFd 1 out with
        | .ok h => set h
        | .error cause => c.die 1 (str "write error: " ++ Host.reason cause)
  return status

/-- Write lines in reverse. -/
def tac : Program := fun _ c => do
  let g ← c.read 1 "brs:" [⟨"before", .nothing, 'b'⟩, ⟨"regex", .nothing, 'r'⟩,
    ⟨"separator", .value, 's'⟩] true
  let mut status := 0
  for o in Call.orInput g.operands do
    match ← Call.readOperand o with
    | .ok text => Act.say (Host.splitLines text).reverse.flatten
    | .error cause =>
      status := 1
      if cause = .isADirectory then
        c.warn (Host.Quote.beforeColon o ++ str ": read error: Invalid argument")
      else
        c.warn (str "failed to open " ++ Host.Quote.always o ++ str " for reading: " ++
          Host.reason cause)
  return status

/-- Write lines with their characters in reverse. -/
def rev : Program := fun _ c => do
  let g ← c.read 1 "" [] true
  let mut status := 0
  for o in Call.orInput g.operands do
    match ← Call.readOperand o with
    | .ok text =>
      for l in Host.splitLines text do
        let body := Host.chomp l
        Act.say ((Host.characters body).reverse.flatten ++ l.drop body.length)
    | .error cause =>
      status := 1
      c.warn (str "cannot open " ++ o ++ str ": " ++ Host.reason cause)
  return status

/-- Write what is read to files too. -/
def tee : Program := fun _ c => do
  let g ← c.read 1 "aip" [⟨"append", .nothing, 'a'⟩, ⟨"ignore-interrupts", .nothing, 'i'⟩,
    ⟨"output-error", .maybe, 'p'⟩] true
  let text := (← Act.readFd 0).toOption.getD []
  let mut status := 0
  for o in g.operands do
    match ← Act.writePath o text (if g.has 'a' then .append else .write) with
    | .ok () => pure ()
    | .error cause =>
      status := 1
      c.warn (Host.Quote.beforeColon o ++ str ": " ++ Host.reason cause)
  match (← get).writeFd 1 text with
  | .ok h => set h
  | .error cause =>
    if text ≠ [] then c.warn (str "'standard output': " ++ Host.reason cause)
    status := 1
  return status

/-! ## Starts and ends of files -/

/-- A part of a file that is counted in lines or in characters. -/
structure Portion where
  inLines : Bool
  count : Nat
  /-- The part is all but so many, or starts behind so many. -/
  complement : Bool
  /-- The character that ends lines. -/
  mark : Char

/-- The lines of a text with a given end. -/
def linesEndedBy (mark : Char) (text : Str) : List Str :=
  if mark = '\n' then Host.splitLines text
  else
    let parts := Host.splitOn mark text
    let front := parts.dropLast.map (· ++ [mark])
    match parts.getLast? with
    | some [] => front
    | some last => front ++ [last]
    | none => front

/-- The start of a text. -/
def Portion.start (p : Portion) (text : Str) : Str :=
  if p.inLines then
    let ls := linesEndedBy p.mark text
    (if p.complement then ls.take (ls.length - p.count) else ls.take p.count).flatten
  else if p.complement then text.take (text.length - p.count) else text.take p.count

/-- The end of a text. -/
def Portion.finish (p : Portion) (text : Str) : Str :=
  if p.inLines then
    let ls := linesEndedBy p.mark text
    (if p.complement then ls.drop (p.count - 1) else ls.drop (ls.length - p.count)).flatten
  else if p.complement then text.drop (p.count - 1) else text.drop (text.length - p.count)

/-- The old way to write a count as an option of its own. -/
def spelledOut (c : Call) (signs : List Char) : Call :=
  match c.args with
  | (s :: d :: rest) :: more =>
    if signs.contains s && d.isDigit then
      let digits := (d :: rest).takeWhile Char.isDigit
      let letters := (d :: rest).drop digits.length
      let option : Char := if letters.contains 'c' then 'c' else 'n'
      let others := letters.filter fun l => l ≠ 'c' && l ≠ 'n' && l ≠ 'l'
      { c with args := ['-', option] :: (if s = '+' then '+' :: digits else digits) ::
          (if others = [] then more else ('-' :: others) :: more) }
    else c
  | _ => c

/-- The heading over a file among several ones. -/
def heading (isFirst : Bool) (name : Str) : Str :=
  (if isFirst then [] else ['\n']) ++ str "==> " ++ name ++ str " <==\n"

/-- How much a program reads at once. -/
def blockSize : Nat := 8192

/-- Write the starts of files. -/
def head : Program := fun _ c => do
  let c := spelledOut c ['-']
  let g ← c.read 1 "c:n:qvz"
    [⟨"bytes", .value, 'c'⟩, ⟨"lines", .value, 'n'⟩, ⟨"quiet", .nothing, 'q'⟩,
      ⟨"silent", .nothing, 'q'⟩, ⟨"verbose", .nothing, 'v'⟩, ⟨"zero-terminated", .nothing, 'z'⟩] true
  let mark := if g.has 'z' then '\x00' else '\n'
  let p : Portion ← match g.last? ['c', 'n'] with
    | none => pure ⟨true, 10, false, mark⟩
    | some o => do
      let s := (g.value? o).getD []
      let (complement, digits) := match s with
        | '-' :: rest => (true, rest)
        | '+' :: rest => (false, rest)
        | rest => (false, rest)
      match count? digits with
      | some n => pure ⟨o = 'n', n, complement, mark⟩
      | none =>
        c.die 1 (str (if o = 'n' then "invalid number of lines: " else "invalid number of bytes: ") ++
          Host.Quote.curly digits)
  let operands := Call.orInput g.operands
  let headed := g.has 'v' || (1 < operands.length && !g.has 'q')
  let mut status := 0
  let mut first := true
  for o in operands do
    let opened ← if o = ['-'] then pure ((← get).descriptor? 0 |>.elim (.error .badDescriptor) .ok)
      else Act.openPath o .read
    match opened with
    | .error cause =>
      status := 1
      c.warn (str "cannot open " ++ Host.Quote.always o ++ str " for reading: " ++ Host.reason cause)
    | .ok file =>
      if headed then
        Act.say (heading first (if o = ['-'] then str "standard input" else o))
        first := false
      match (← get).remaining file with
      | .error cause =>
        status := 1
        c.warn (str "error reading " ++ Host.Quote.always (if o = ['-'] then str "standard input" else o) ++
          str ": " ++ Host.reason cause)
      | .ok text =>
        let part := p.start text
        let h ← get
        let used := if h.isSeekable file then part.length
          else ((part.length + blockSize - 1) / blockSize) * blockSize
        modify (·.advance file (min used text.length))
        Act.say part
  return status

/-- Write the ends of files. -/
def tail : Program := fun _ c => do
  let c := spelledOut c ['-', '+']
  let g ← c.read 1 "c:n:fFqs:vz"
    [⟨"bytes", .value, 'c'⟩, ⟨"lines", .value, 'n'⟩, ⟨"follow", .maybe, 'f'⟩, ⟨"retry", .nothing, 'F'⟩,
      ⟨"pid", .value, 's'⟩, ⟨"sleep-interval", .value, 's'⟩, ⟨"quiet", .nothing, 'q'⟩,
      ⟨"silent", .nothing, 'q'⟩, ⟨"verbose", .nothing, 'v'⟩, ⟨"zero-terminated", .nothing, 'z'⟩] true
  let mark := if g.has 'z' then '\x00' else '\n'
  let p : Portion ← match g.last? ['c', 'n'] with
    | none => pure ⟨true, 10, false, mark⟩
    | some o => do
      let s := (g.value? o).getD []
      let (complement, digits) := match s with
        | '+' :: rest => (true, rest)
        | '-' :: rest => (false, rest)
        | rest => (false, rest)
      match count? digits with
      | some n => pure ⟨o = 'n', n, complement, mark⟩
      | none =>
        c.die 1 (str (if o = 'n' then "invalid number of lines: " else "invalid number of bytes: ") ++
          Host.Quote.curly digits)
  let operands := Call.orInput g.operands
  let headed := g.has 'v' || (1 < operands.length && !g.has 'q')
  let mut status := 0
  let mut first := true
  for o in operands do
    let name := if o = ['-'] then str "standard input" else o
    match ← Call.readOperand o with
    | .error cause =>
      status := 1
      if cause = .isADirectory then
        if headed then
          Act.say (heading first name)
          first := false
        c.warn (str "error reading " ++ Host.Quote.always name ++ str ": " ++ Host.reason cause)
      else
        c.warn (str "cannot open " ++ Host.Quote.always o ++ str " for reading: " ++ Host.reason cause)
    | .ok text =>
      if headed then
        Act.say (heading first name)
        first := false
      Act.say (p.finish text)
  return status

/-! ## Measures -/

/-- The measures of a text. -/
structure Measures where
  lines : Nat
  words : Nat
  characters : Nat
  bytes : Nat
  longest : Nat

namespace Measures

def zero : Measures := ⟨0, 0, 0, 0, 0⟩

/-- The measures of two texts together. -/
def add (a b : Measures) : Measures :=
  ⟨a.lines + b.lines, a.words + b.words, a.characters + b.characters, a.bytes + b.bytes,
    max a.longest b.longest⟩

/-- The longest line, where tabs go to the next place of eight. -/
def longestLine (text : Str) : Nat :=
  let step (acc : Nat × Nat) (g : Str) : Nat × Nat :=
    let (longest, here) := acc
    match g with
    | ['\n'] => (max longest here, 0)
    | ['\r'] => (max longest here, 0)
    | ['\x0c'] => (max longest here, 0)
    | ['\t'] => (longest, here + 8 - here % 8)
    | [c] => (longest, if 32 ≤ c.toNat && c.toNat < 127 then here + 1 else here)
    | _ => (longest, here + 1)
  let (longest, here) := (Host.characters text).foldl step (0, 0)
  max longest here

/-- The measures of a text. -/
def of (text : Str) : Measures where
  lines := text.count '\n'
  words := (text.foldl (fun (n, inside) c =>
    if Host.isSpace c then (n, false) else (if inside then n else n + 1, true)) ((0 : Nat), false)).1
  characters := (text.filter fun c => c.toNat / 64 ≠ 2).length
  bytes := text.length
  longest := longestLine text

end Measures

/-- Write the measures of files. -/
def wc : Program := fun _ c => do
  let g ← c.read 1 "clmwL"
    [⟨"bytes", .nothing, 'c'⟩, ⟨"chars", .nothing, 'm'⟩, ⟨"lines", .nothing, 'l'⟩,
      ⟨"words", .nothing, 'w'⟩, ⟨"max-line-length", .nothing, 'L'⟩, ⟨"files0-from", .value, 'F'⟩] true
  let chosen := ['l', 'w', 'm', 'c', 'L'].filter g.has
  let chosen := if chosen = [] then ['l', 'w', 'c'] else chosen
  let operands := Call.orInput g.operands
  let h ← get
  -- the size of a file decides how wide the columns are
  let sizeOf (o : Str) : Option (Option Nat) :=
    if o = ['-'] then
      match h.descriptor? 0 with
      | none => none
      | some file =>
        match h.opened[file]? with
        | some ⟨.file loc, _, _, _, _⟩ =>
          match h.files.get? loc with
          | some ⟨.file bytes, _, _, _⟩ => some (some bytes.length)
          | _ => some none
        | _ => some none
    else match h.files.stat (Host.pathOf o) with
      | .error _ => none
      | .ok e =>
        match e.node with
        | .file bytes => some (some bytes.length)
        | _ => some none
  let sizes := operands.filterMap sizeOf
  let width := if chosen.length = 1 && operands.length = 1 then 1
    else
      let total : Nat := (sizes.filterMap id).foldl (· + ·) 0
      let least := if sizes.any Option.isNone then 7 else 1
      max least (Host.decimal total).length
  let row (m : Measures) (name : Option Str) : Str :=
    Host.joinWith [' '] ((chosen.map fun o =>
      Host.padLeft width (Host.decimal (match o with
        | 'l' => m.lines
        | 'w' => m.words
        | 'm' => m.characters
        | 'c' => m.bytes
        | _ => m.longest : Nat))) ++ name.toList) ++ ['\n']
  let mut total := Measures.zero
  let mut status := 0
  for o in operands do
    let name := if o = ['-'] && g.operands = [] then none else some o
    match ← Call.readOperand o with
    | .ok text =>
      let m := Measures.of text
      total := total.add m
      Act.say (row m name)
    | .error cause =>
      status := 1
      c.warn (Host.Quote.beforeColon (if o = ['-'] then str "standard input" else o) ++ str ": " ++
        Host.reason cause)
      if cause = .isADirectory then Act.say (row .zero name)
  if 1 < operands.length then Act.say (row total (some (str "total")))
  return status

/-! ## Numbered lines -/

/-- Write lines with numbers. -/
def nl : Program := fun _ c => do
  let g ← c.read 1 "b:d:f:h:i:l:n:ps:v:w:"
    [⟨"body-numbering", .value, 'b'⟩, ⟨"section-delimiter", .value, 'd'⟩,
      ⟨"footer-numbering", .value, 'f'⟩, ⟨"header-numbering", .value, 'h'⟩,
      ⟨"line-increment", .value, 'i'⟩, ⟨"number-format", .value, 'n'⟩,
      ⟨"number-separator", .value, 's'⟩, ⟨"starting-line-number", .value, 'v'⟩,
      ⟨"number-width", .value, 'w'⟩] true
  let style := (g.value? 'b').getD ['t']
  let separator := (g.value? 's').getD ['\t']
  let width := ((g.value? 'w').bind Host.natural?).getD 6
  let increment := ((g.value? 'i').bind Host.integer?).getD 1
  let format := (g.value? 'n').getD (str "rn")
  let shown (n : Int) : Str :=
    if format = str "ln" then Host.padRight width (Host.decimal n)
    else if format = str "rz" then
      if n < 0 then '-' :: Host.padZero (width - 1) n.natAbs else Host.padZero width n.natAbs
    else Host.padLeft width (Host.decimal n)
  let mut n := ((g.value? 'v').bind Host.integer?).getD 1
  let mut status := 0
  for o in Call.orInput g.operands do
    match ← contentsOf c o with
    | none => status := 1
    | some text =>
      for l in Host.linesOf text do
        let counted := style = ['a'] || (style = ['t'] && l ≠ [])
        if l = str "\\:\\:\\:" || l = str "\\:\\:" || l = str "\\:" then Act.say ['\n']
        else if counted then
          Act.say (shown n ++ separator ++ l ++ ['\n'])
          n := n + increment
        else Act.say (Host.run (width + separator.length) ' ' ++ l ++ ['\n'])
  return status

end StaleBuild.Utility
