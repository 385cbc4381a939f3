import StaleBuild.Utility.Reading

/-!
Utilities that work within lines: they cut parts out, put lines beside each other, exchange
characters, break lines, and exchange tabs for spaces.
-/

namespace StaleBuild.Utility

open Host (Str str Call Program Given)
open Host.Quote (curly)

/-! ## Parts of lines -/

/-- A range of positions, the last of which may be open. -/
abbrev Positions := List (Nat × Option Nat)

/-- Read a list of ranges; the error is a complaint. -/
def positions? (isField : Bool) (s : Str) : Except Str Positions := do
  let numbered := str (if isField then "fields are numbered from 1"
    else "byte/character positions are numbered from 1")
  let bad (t : Str) : Str := str (if isField then "invalid field value "
    else "invalid byte/character position ") ++ curly t
  let number (t : Str) : Except Str Nat :=
    match Host.natural? t with
    | some 0 => .error numbered
    | some n => .ok n
    | none => .error (bad (t.dropWhile Char.isDigit))
  (Host.splitOn ',' (s.map fun c => if Host.isBlank c then ',' else c)).mapM fun part =>
    if 1 < (part.filter (· = '-')).length then
      .error (str (if isField then "invalid field range" else "invalid byte or character range"))
    else match Host.cut '-' part with
    | ([], none) => .error numbered
    | (a, none) => (number a).map fun n => (n, some n)
    | ([], some []) => .error (str "invalid range with no endpoint: -")
    | ([], some b) => (number b).map fun n => (1, some n)
    | (a, some []) => (number a).map fun n => (n, none)
    | (a, some b) => do
      let n ← number a
      let m ← number b
      if m < n then .error (str "invalid decreasing range") else return (n, some m)

/-- Whether a position is in some range. -/
def inPositions (ps : Positions) (n : Nat) : Bool :=
  ps.any fun (a, b) => a ≤ n && b.all fun b => n ≤ b

/-- Whether a range starts at a position, as far as others do not reach it. -/
def startsRange (ps : Positions) (n : Nat) : Bool :=
  inPositions ps n && (n = 1 || !inPositions ps (n - 1) ||
    (ps.any fun (a, _) => a = n) && !ps.any fun (a, b) => a < n && b.all fun b => n ≤ b)

/-- Cut parts out of lines. -/
def cut : Program := fun _ c => do
  let g ← c.read 1 "b:c:d:f:nsz"
    [⟨"bytes", .value, 'b'⟩, ⟨"characters", .value, 'c'⟩, ⟨"fields", .value, 'f'⟩,
      ⟨"delimiter", .value, 'd'⟩, ⟨"only-delimited", .nothing, 's'⟩,
      ⟨"output-delimiter", .value, 'o'⟩, ⟨"complement", .nothing, 'p'⟩,
      ⟨"zero-terminated", .nothing, 'z'⟩] true
  let lists := g.options.filter fun o => o.1 = 'b' || o.1 = 'c' || o.1 = 'f'
  if 1 < lists.length then c.misused 1 (str "only one list may be specified")
  match g.value? 'd' with
  | some (_ :: _ :: _) => c.misused 1 (str "the delimiter must be a single character")
  | _ => pure ()
  match lists with
  | [] => c.misused 1 (str "you must specify a list of bytes, characters, or fields")
  | (kind, value) :: _ => do
    let isField := kind = 'f'
    if !isField && g.has 'd' then
      c.misused 1 (str "an input delimiter may be specified only when operating on fields")
    if !isField && g.has 's' then
      c.misused 1 (str "suppressing non-delimited lines makes sense\n\tonly when operating on fields")
    let ps ← match positions? isField (value.getD []) with
      | .ok ps => pure ps
      | .error complaint => c.misused 1 complaint
    let wanted (n : Nat) : Bool := inPositions ps n != g.has 'p'
    let mark := if g.has 'z' then '\x00' else '\n'
    let delimiter := match g.value? 'd' with
      | some (d :: _) => d
      | some [] => '\x00'
      | none => '\t'
    let between := (g.value? 'o').getD (if isField then [delimiter] else [])
    let chosen (l : Str) : Option Str :=
      if isField then
        if !l.contains delimiter then (if g.has 's' then none else some l)
        else
          let fields := (Host.splitOn delimiter l).zipIdx.filter fun f => wanted (f.2 + 1)
          some (Host.joinWith between (fields.map Prod.fst))
      else
        let chars := l.zipIdx.filter fun x => wanted (x.2 + 1)
        if between = [] then some (chars.map Prod.fst)
        else
          -- a delimiter goes between ranges that do not touch
          let step (acc : Str × Bool) (x : Char × Nat) : Str × Bool :=
            let starts := if g.has 'p' then !wanted x.2 else startsRange ps (x.2 + 1)
            (acc.1 ++ (if acc.2 && starts then between else []) ++ [x.1], true)
          some (chars.foldl step ([], false)).1
    eachText c g.operands fun _ text => do
      let parts := Host.splitOn mark text
      let lines := if parts.getLast? = some [] then parts.dropLast else parts
      Act.say (lines.flatMap fun l => match chosen l with
        | some s => s ++ [mark]
        | none => [])

/-- The delimiters that a list of them spells. -/
def delimiters : Str → List Str
  | [] => []
  | '\\' :: c :: rest =>
    (match c with
      | 'n' => ['\n']
      | 't' => ['\t']
      | '0' => []
      | 'b' => ['\x08']
      | 'f' => ['\x0c']
      | 'r' => ['\r']
      | 'v' => ['\x0b']
      | c => [c]) :: delimiters rest
  | c :: rest => [c] :: delimiters rest

/-- Parts with delimiters between them, which come in turn. -/
def interleaved (ds : List Str) (parts : List Str) : Str :=
  (parts.zipIdx.flatMap fun (p, i) =>
    (if i = 0 then [] else ds.getD ((i - 1) % max 1 ds.length) []) ++ p)

/-- Put lines of files beside each other. -/
def paste : Program := fun _ c => do
  let g ← c.read 1 "d:sz"
    [⟨"serial", .nothing, 's'⟩, ⟨"delimiters", .value, 'd'⟩, ⟨"zero-terminated", .nothing, 'z'⟩] true
  let list := (g.value? 'd').getD ['\t']
  if (list.reverse.takeWhile (· = '\\')).length % 2 = 1 then
    c.die 1 (str "delimiter list ends with an unescaped backslash: " ++ list)
  let ds := delimiters list
  let mut files : List (List Str) := []
  let mut status := 0
  let operands := Call.orInput g.operands
  -- several dashes take the lines of the input in turn
  let dashes := (operands.filter (· = ['-'])).length
  let input ← if 0 < dashes then (do
      match ← contentsOf c ['-'] with
      | some t => pure (Host.linesOf t)
      | none => Act.exit 1) else pure []
  let mut dash := 0
  for o in operands do
    if o = ['-'] then
      let n := dash
      let own := if g.has 's' then (if n = 0 then input else [])
        else (input.zipIdx.filter fun l => l.2 % dashes = n).map Prod.fst
      files := files ++ [own]
      dash := dash + 1
    else
      match ← Call.readOperand o with
      | .ok t => files := files ++ [Host.linesOf t]
      | .error cause =>
        c.warn (Host.Quote.beforeColon o ++ str ": " ++ Host.reason cause)
        if g.has 's' then status := 1
        else if cause = .isADirectory then
          status := 1
          files := files ++ [[]]
        else Act.exit 1
  if g.has 's' then
    for ls in files do
      Act.say (interleaved ds ls ++ ['\n'])
  else
    let count := (files.map List.length).foldl max 0
    let arrays := files.map List.toArray
    for i in List.range count do
      Act.say (interleaved ds (arrays.map fun a => a.getD i []) ++ ['\n'])
  return status

/-! ## Characters -/

namespace Tr

/-- A piece of a set as it is written. -/
inductive Piece where
  | chars (s : Str)
  /-- The letters of a case; whether it is the upper one. -/
  | letters (upper : Bool)
  | cls (name : Str)
  /-- A character so many times, or as often as is needed. -/
  | times (c : Char) (n : Nat)

/-- All characters. -/
def everything : Str := (List.range 256).map Char.ofNat

/-- The characters of a piece. -/
def Piece.expand : Piece → Str
  | .chars s => s
  | .letters true => everything.filter Char.isUpper
  | .letters false => everything.filter Char.isLower
  | .cls name =>
    everything.filter fun c => c.toNat < 128 && (
      match Host.word name with
      | "alpha" => c.isAlpha
      | "digit" => c.isDigit
      | "alnum" => c.isAlphanum
      | "space" => Host.isSpace c
      | "blank" => Host.isBlank c
      | "punct" => 33 ≤ c.toNat && c.toNat < 127 && !c.isAlphanum
      | "print" => 32 ≤ c.toNat && c.toNat < 127
      | "graph" => 33 ≤ c.toNat && c.toNat < 127
      | "cntrl" => c.toNat < 32 || c.toNat = 127
      | _ => Host.isDigitIn 16 c)
  | .times c n => Host.run n c

def classNames : List String :=
  ["alpha", "digit", "alnum", "space", "blank", "punct", "print", "graph", "cntrl", "xdigit"]

/-- A character of a set, which a backslash may spell, and what follows; the second part tells that it
was spelled so. -/
def character : Str → Option (Char × Bool × Str)
  | [] => none
  | '\\' :: c :: rest =>
    let digits := ((c :: rest).take 3).takeWhile (Host.isDigitIn 8)
    if digits ≠ [] then
      let digits := if 255 < Host.foldDigits 8 digits then digits.take 2 else digits
      some (Char.ofNat (Host.foldDigits 8 digits), true, (c :: rest).drop digits.length)
    else
      let d := match c with
        | 'a' => '\x07'
        | 'b' => '\x08'
        | 'f' => '\x0c'
        | 'n' => '\n'
        | 'r' => '\r'
        | 't' => '\t'
        | 'v' => '\x0b'
        | c => c
      some (d, true, rest)
  | c :: rest => some (c, false, rest)

/-- The text up to a mark of two characters, and what follows. -/
def upTo (a b : Char) : Str → Str → Option (Str × Str)
  | _, [] => none
  | taken, c :: rest =>
    if c = a && rest.head? = some b then some (taken.reverse, rest.tail) else upTo a b (c :: taken) rest

/-- A piece in brackets, and what follows; the error is a complaint. -/
def bracketed (s : Str) : Except Str (Option (Piece × Str)) :=
  match s with
  | '[' :: ':' :: rest =>
    match upTo ':' ']' [] rest with
    | none => .ok none
    | some (name, rest) =>
      if name = str "upper" then .ok (some (.letters true, rest))
      else if name = str "lower" then .ok (some (.letters false, rest))
      else if classNames.any fun n => n.toList = name then .ok (some (.cls name, rest))
      else if (rest.head?.any fun c => c = '*') then .ok none
      else .error (str "invalid character class " ++ curly name)
  | '[' :: '=' :: rest =>
    match upTo '=' ']' [] rest with
    | some ([c], rest) => .ok (some (.chars [c], rest))
    | some ([], _) => .ok none
    | some (name, _) =>
      .error (name ++ str ": equivalence class operand must be a single character")
    | none => .ok none
  | '[' :: rest =>
    match character rest with
    | some (c, _, '*' :: more) =>
      match Host.cut ']' more with
      | (_, none) => .ok none
      | (n, some rest) =>
        let base := if n.head? = some '0' then 8 else 10
        match if n = [] then some 0 else Host.naturalIn? base n with
        | some n => .ok (some (.times c n, rest))
        | none => .error (str "invalid repeat count " ++ curly n ++ str " in [c*n] construct")
    | _ => .ok none
  | _ => .ok none

/-- The pieces of a set. -/
def pieces : Nat → Str → Except Str (List Piece)
  | 0, _ => .ok []
  | fuel + 1, s => do
    match ← bracketed s with
    | some (p, rest) => return p :: (← pieces fuel rest)
    | none =>
      match character s with
      | none => return []
      | some (a, _, '-' :: rest) =>
        match character rest with
        | some (b, _, rest) =>
          if b < a then
            .error (str "range-endpoints of '" ++ [a, '-', b] ++
              str "' are in reverse collating sequence order")
          else
            return .chars ((List.range (b.toNat + 1 - a.toNat)).map fun i => Char.ofNat (a.toNat + i)) ::
              (← pieces fuel rest)
        | none => return .chars [a, '-'] :: (← pieces fuel rest)
      | some (a, _, rest) => return .chars [a] :: (← pieces fuel rest)

/-- Text in which runs of characters of a class are made one. -/
def squeezed (p : Char → Bool) : Option Char → Str → Str
  | _, [] => []
  | last, c :: rest =>
    if p c && last = some c then squeezed p last rest else c :: squeezed p (some c) rest

/-- The second set, as long as the first one: an open repetition fills the gap, or else the last
character does. -/
def fitted (truncates : Bool) (length : Nat) (ps : List Piece) : Str :=
  let fixed := (ps.flatMap Piece.expand).length
  let ps := ps.map fun p => match p with
    | .times c 0 => Piece.times c (length - fixed)
    | p => p
  let s := ps.flatMap Piece.expand
  if truncates then s
  else match s.getLast? with
    | some last => s ++ Host.run (length - s.length) last
    | none => s

/-- Where the letters of one case start in a set. -/
def letterPlaces : Nat → List Piece → List Nat
  | _, [] => []
  | n, p :: rest =>
    let more := letterPlaces (n + p.expand.length) rest
    match p with
    | .letters _ => n :: more
    | _ => more

end Tr

open Tr in
/-- Exchange, remove or squeeze characters. -/
def tr : Program := fun _ c => do
  let g ← c.read 1 "+AcCdst"
    [⟨"complement", .nothing, 'c'⟩, ⟨"delete", .nothing, 'd'⟩, ⟨"squeeze-repeats", .nothing, 's'⟩,
      ⟨"truncate-set1", .nothing, 't'⟩] false
  let complements := g.has 'c' || g.has 'C'
  let deletes := g.has 'd'
  let squeezes := g.has 's'
  let least := if deletes = squeezes then 2 else 1
  let most := if deletes && !squeezes then 1 else 2
  let explain (words : String) : Act Nat := do
    Act.complain (str words)
    c.hint
    return 1
  match g.operands.drop most with
  | extra :: _ =>
    c.warn (str "extra operand " ++ curly extra)
    if g.operands.length = 2 then
      explain "Only one string may be given when deleting without squeezing repeats.\n"
    else
      c.hint
      return 1
  | [] =>
    match g.operands with
    | [] => c.misused 1 (str "missing operand")
    | first :: others =>
      if g.operands.length < least then
        c.warn (str "missing operand after " ++ curly first)
        if squeezes then explain "Two strings must be given when both deleting and squeezing repeats.\n"
        else explain "Two strings must be given when translating.\n"
      else
        for s in g.operands do
          if (s.reverse.takeWhile (· = '\\')).length % 2 = 1 then
            c.warn (str "warning: an unescaped backslash at end of string is not portable")
        let ps ← match pieces (first.length + 1) first with
          | .ok ps => pure ps
          | .error complaint => c.die 1 complaint
        let set := ps.flatMap Piece.expand
        let set := if complements then everything.filter fun d => !set.contains d else set
        let second ← match others with
          | [] => pure none
          | s :: _ =>
            match pieces (s.length + 1) s with
            | .ok qs => pure (some qs)
            | .error complaint => c.die 1 complaint
        let translates := second.isSome && !deletes
        match second with
        | some qs =>
          if translates then
            if (qs.any fun q => match q with
              | .cls _ => true
              | _ => false) then
              c.die 1 (str
                "when translating, the only character classes that may appear in\nstring2 are 'upper' and 'lower'")
            if qs.isEmpty && !g.has 't' then
              c.die 1 (str "when not truncating set1, string2 must be non-empty")
            let places := letterPlaces 0 ps
            if !complements && (letterPlaces 0 qs).any fun n => !places.contains n then
              c.die 1 (str "misaligned [:upper:] and/or [:lower:] construct")
        | none => pure ()
        let table : Array Char := everything.toArray
        let target := fitted (g.has 't') set.length (second.getD [])
        let table := if translates then
            (set.zip target).foldl (fun (t : Array Char) x => t.set! x.1.toNat x.2) table
          else table
        let members := (everything.map fun d => decide (d ∈ set)).toArray
        let squeezeSet := match second with
          | some qs => qs.flatMap Piece.expand
          | none => set
        let squeezers := (everything.map fun d => decide (d ∈ squeezeSet)).toArray
        match ← Act.readFd 0 with
        | .error cause => c.die 1 (str "read error: " ++ Host.reason cause)
        | .ok text =>
          let text := if deletes then text.filter fun d => !members.getD d.toNat false else text
          let text := if translates then text.map fun d => table.getD d.toNat d else text
          Act.say (if squeezes then squeezed (fun d => squeezers.getD d.toNat false) none text else text)
          return 0

/-! ## Broken lines -/

/-- The column behind a character. -/
def columnAfter (byBytes : Bool) (column : Nat) (g : Str) : Nat :=
  if byBytes then column + g.length
  else match g with
    | ['\t'] => column + 8 - column % 8
    | ['\x08'] => column - 1
    | ['\r'] => 0
    | _ => column + 1

/-- A line broken at a width; what has been kept of the part is in reverse. -/
def foldedLine (byBytes atSpaces : Bool) (width : Nat) : Nat → Nat → List Str → List Str → Str
  | 0, _, kept, rest => kept.reverse.flatten ++ rest.flatten
  | _, _, kept, [] => kept.reverse.flatten
  | fuel + 1, column, kept, g :: rest =>
    let next := columnAfter byBytes column g
    if next ≤ width || kept = [] then foldedLine byBytes atSpaces width fuel next (g :: kept) rest
    else
      let behind := if atSpaces then kept.takeWhile fun h => h ≠ [' '] && h ≠ ['\t'] else []
      if atSpaces && behind.length < kept.length then
        let front := kept.drop behind.length
        front.reverse.flatten ++ '\n' ::
          foldedLine byBytes atSpaces width fuel
            (behind.reverse.foldl (columnAfter byBytes) 0) behind (g :: rest)
      else
        kept.reverse.flatten ++ '\n' :: foldedLine byBytes atSpaces width fuel 0 [] (g :: rest)

/-- Break lines at a width. -/
def fold : Program := fun _ c => do
  let g ← c.read 1 "0123456789bsw:"
    [⟨"bytes", .nothing, 'b'⟩, ⟨"spaces", .nothing, 's'⟩, ⟨"width", .value, 'w'⟩] true
  let digits : Str := (g.options.filter fun o => o.1.isDigit).map Prod.fst
  let width ← match g.value? 'w', Host.natural? digits with
    | some s, _ =>
      match Host.natural? s with
      | some 0 => c.die 1 (str "invalid number of columns: " ++ curly s ++
          str ": Numerical result out of range")
      | some n => pure n
      | none => c.die 1 (str "invalid number of columns: " ++ curly s)
    | none, some n => pure n
    | none, none => pure 80
  eachText c g.operands fun _ text => do
    -- columns count bytes
    Act.say ((Host.splitLines text).flatMap fun l =>
      let body := Host.chomp l
      let gs := body.map fun ch => [ch]
      foldedLine (g.has 'b') (g.has 's') width (2 * gs.length + 2) 0 [] gs ++
        if l.length = body.length then [] else ['\n'])

/-! ## Tabs -/

/-- Where tabs stop: at places, and then at every multiple. -/
structure Stops where
  places : List Nat
  every : Option Nat

/-- Read the places where tabs stop; the error is a complaint. -/
def stops? (s : Str) : Except Str Stops := do
  let parts := (Host.splitOn ',' (s.map fun c => if Host.isBlank c then ',' else c)).filter (· ≠ [])
  let ns ← parts.mapM fun p =>
    match Host.natural? p with
    | some 0 => .error (str "tab size cannot be 0")
    | some n => .ok n
    | none => .error (str "tab size contains invalid character(s): " ++ curly (p.dropWhile Char.isDigit))
  match ns with
  | [] => return ⟨[], some 8⟩
  | [n] => return ⟨[], some n⟩
  | ns =>
    if (ns.zip ns.tail).all fun (a, b) => a < b then return ⟨ns, none⟩
    else .error (str "tab sizes must be ascending")

/-- The next place where a tab stops. -/
def Stops.next (k : Stops) (column : Nat) : Option Nat :=
  match k.places.find? fun p => column < p, k.every with
  | some p, _ => some p
  | none, some n => some (column + n - column % n)
  | none, none => none

/-- A line with its tabs made spaces. -/
def expandedLine (k : Stops) (onlyFirst : Bool) : Nat → Bool → Str → Str
  | _, _, [] => []
  | column, isFirst, c :: rest =>
    if c = '\t' && (isFirst || !onlyFirst) then
      let next := (k.next column).getD (column + 1)
      Host.run (next - column) ' ' ++ expandedLine k onlyFirst next isFirst rest
    else
      let isFirst := isFirst && Host.isBlank c
      c :: expandedLine k onlyFirst (if c = '\x08' then column - 1 else column + 1) isFirst rest

/-- The places where the options of a program say that tabs stop. -/
def stopsOf (c : Call) (g : Given) : Act Stops := do
  let digits := Host.joinWith [] ((g.options.filter fun o => o.1.isDigit || o.1 = ',').map fun o => [o.1])
  match stops? ((g.value? 't').getD digits) with
  | .ok k => return k
  | .error complaint => c.die 1 complaint

/-- Exchange tabs for spaces. -/
def expand : Program := fun _ c => do
  let g ← c.read 1 "it:0123456789,"
    [⟨"initial", .nothing, 'i'⟩, ⟨"tabs", .value, 't'⟩] true
  let k ← stopsOf c g
  eachText c g.operands fun _ text =>
    Act.say ((Host.splitLines text).flatMap fun l => expandedLine k (g.has 'i') 0 true l)

/-- Spaces from one column to another one, with tabs where they fit. -/
def tabbed (k : Stops) : Nat → Nat → Nat → Str
  | 0, _, _ => []
  | fuel + 1, a, b =>
    if b ≤ a then []
    else match k.next a with
      | some n => if n ≤ b then '\t' :: tabbed k fuel n b else Host.run (b - a) ' '
      | none => Host.run (b - a) ' '

/-- A line with its blanks made tabs where they fit. -/
def unexpandedLine (k : Stops) (everywhere : Bool) : Nat → Nat → Bool → Str → Str
  | 0, _, _, s => s
  | _, _, _, [] => []
  | fuel + 1, column, isFirst, c :: rest =>
    if Host.isBlank c && (isFirst || everywhere) then
      let blanks := (c :: rest).takeWhile Host.isBlank
      let after := blanks.foldl (fun n b => if b = '\t' then (k.next n).getD (n + 1) else n + 1) column
      -- one blank alone stays as it is, unless the line starts with it
      let shown := if blanks = [' '] && (!isFirst || (k.next column).any fun n => after < n) then blanks
        else tabbed k (after + 1) column after
      shown ++ unexpandedLine k everywhere fuel after isFirst ((c :: rest).drop blanks.length)
    else c :: unexpandedLine k everywhere fuel (column + 1) false rest

/-- Exchange spaces for tabs. -/
def unexpand : Program := fun _ c => do
  let g ← c.read 1 "at:0123456789,"
    [⟨"all", .nothing, 'a'⟩, ⟨"first-only", .nothing, 'f'⟩, ⟨"tabs", .value, 't'⟩] true
  let k ← stopsOf c g
  let everywhere := (g.has 'a' || g.has 't') && !g.has 'f'
  eachText c g.operands fun _ text =>
    Act.say ((Host.splitLines text).flatMap fun l => unexpandedLine k everywhere (l.length + 1) 0 true l)

end StaleBuild.Utility
