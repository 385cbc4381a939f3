import StaleBuild.Utility.Reading

/-!
Utilities that put lines in order or work on lines that are in order. An order is a list of keys, each
a part of the line and a way to compare; where all keys find lines equal the whole lines decide.
-/

namespace StaleBuild.Utility

open Host (Str str Call Program Given)
open Host.Quote (curly beforeColon)

namespace Order

/-! ## Comparing texts -/

/-- Compare texts by their bytes. -/
def bytes : Str → Str → Ordering
  | [], [] => .eq
  | [], _ :: _ => .lt
  | _ :: _, [] => .gt
  | a :: as, b :: bs => if a = b then bytes as bs else if a < b then .lt else .gt

/-- A number as it is written: a sign, a whole part and a fraction. -/
structure Written where
  negative : Bool
  /-- All digits together. -/
  digits : Nat
  /-- How many of them are behind the point. -/
  places : Nat

/-- The number at the start of a text, behind blanks; nothing counts as zero. -/
def Written.of (s : Str) : Written × Str :=
  let s := s.dropWhile Host.isBlank
  let (negative, s) := match s with
    | '-' :: rest => (true, rest)
    | s => (false, s)
  let whole := s.takeWhile Char.isDigit
  let rest := s.drop whole.length
  match rest with
  | '.' :: more =>
    let fraction := more.takeWhile Char.isDigit
    (⟨negative, Host.foldDigits 10 (whole ++ fraction), fraction.length⟩, more.drop fraction.length)
  | rest => (⟨negative, Host.foldDigits 10 whole, 0⟩, rest)

/-- Compare written numbers. -/
def Written.compare (a b : Written) : Ordering :=
  let value (x : Written) (places : Nat) : Int :=
    let n : Int := (x.digits * 10 ^ places : Nat)
    if x.negative then -n else n
  if a.places = b.places then Ord.compare (value a 0) (value b 0)
  else Ord.compare (value a b.places) (value b a.places)

/-- A number with an exponent, and what stands for none. -/
inductive General where
  | none
  | nan
  | infinite (negative : Bool)
  | finite (mantissa : Int) (exponent : Int)

/-- The number at the start of a text, with an exponent if there is one. -/
def General.of (s : Str) : General :=
  let s := s.dropWhile Host.isSpace
  let (negative, body) := match s with
    | '-' :: rest => (true, rest)
    | '+' :: rest => (false, rest)
    | s => (false, s)
  let lower := Host.toLower body
  if (str "inf").isPrefixOf lower then .infinite negative
  else if (str "nan").isPrefixOf lower then .nan
  else
    let whole := body.takeWhile Char.isDigit
    let rest := body.drop whole.length
    let (fraction, rest) := match rest with
      | '.' :: more =>
        let f := more.takeWhile Char.isDigit
        (f, more.drop f.length)
      | rest => ([], rest)
    if whole = [] && fraction = [] then .none
    else
      let power : Int := match rest with
        | e :: more =>
          if e = 'e' || e = 'E' then
            match more with
            | '-' :: ds => -(Host.foldDigits 10 (ds.takeWhile Char.isDigit) : Int)
            | '+' :: ds => (Host.foldDigits 10 (ds.takeWhile Char.isDigit) : Int)
            | ds => (Host.foldDigits 10 (ds.takeWhile Char.isDigit) : Int)
          else 0
        | [] => 0
      let m : Int := (Host.foldDigits 10 (whole ++ fraction) : Int)
      .finite (if negative then -m else m) (max (-5000) (min 5000 (power - fraction.length)))

/-- Compare numbers with exponents. -/
def General.compare : General → General → Ordering
  | .finite m e, .finite n f =>
    let least := min e f
    Ord.compare (m * 10 ^ (e - least).toNat) (n * 10 ^ (f - least).toNat)
  | a, b =>
    let rank : General → Nat
      | .none => 0
      | .nan => 1
      | .infinite true => 2
      | .finite .. => 3
      | .infinite false => 4
    Ord.compare (rank a) (rank b)

/-- The rank of the unit behind a number. -/
def unitRank (rest : Str) : Nat :=
  match rest with
  | [] => 0
  | c :: _ =>
    match "KMGTPEZY".toList.findIdx? (· = c) with
    | some i => i + 1
    | none => if c = 'k' then 1 else 0

/-- Compare numbers with units. -/
def humans (a b : Str) : Ordering :=
  let rank (s : Str) : Int × Written :=
    let (w, rest) := Written.of s
    let r : Int := (unitRank rest : Int)
    (if w.digits = 0 then 0 else if w.negative then -(r + 1) else r + 1, w)
  let (r, v) := rank a
  let (t, w) := rank b
  if r = t then v.compare w else Ord.compare r t

/-- The number of the month that a text starts with, none being the first. -/
def monthRank (s : Str) : Nat :=
  let name := Host.toUpper ((s.dropWhile Host.isBlank).take 3)
  match ["JAN", "FEB", "MAR", "APR", "MAY", "JUN", "JUL", "AUG", "SEP", "OCT", "NOV", "DEC"].findIdx?
    fun m => m.toList = name with
  | some i => i + 1
  | none => 0

/-- The weight of a character that is no digit in a version. -/
def weight (c : Char) : Int :=
  if c.isDigit then 0 else if c.isAlpha then c.toNat else if c = '~' then -1 else c.toNat + 256

/-- Compare what comes before the digits of versions. -/
def nonDigits : Nat → Str → Str → Ordering × Str × Str
  | 0, a, b => (.eq, a, b)
  | fuel + 1, a, b =>
    let isWord : Str → Bool
      | [] => false
      | c :: _ => !c.isDigit
    if isWord a || isWord b then
      let w (s : Str) : Int := (s.head?.map weight).getD 0
      if w a = w b then nonDigits fuel a.tail b.tail else (Ord.compare (w a) (w b), a, b)
    else (.eq, a, b)

/-- Compare texts with numbers in them as versions. -/
def versionsWithin : Nat → Str → Str → Ordering
  | 0, _, _ => .eq
  | fuel + 1, a, b =>
    if a = [] && b = [] then .eq
    else
      match nonDigits (a.length + b.length + 1) a b with
      | (.eq, a, b) =>
        let da := a.takeWhile Char.isDigit
        let db := b.takeWhile Char.isDigit
        match Ord.compare (Host.foldDigits 10 da) (Host.foldDigits 10 db) with
        | .eq => versionsWithin fuel (a.drop da.length) (b.drop db.length)
        | o => o
      | (o, _, _) => o

/-- A name without the suffixes that say of what kind it is. -/
def withoutSuffix (s : Str) : Str :=
  let parts := Host.splitOn '.' s
  let isSuffix (p : Str) : Bool := match p with
    | c :: rest => (c.isAlpha || c = '~') && rest.all fun d => d.isAlphanum || d = '~'
    | [] => false
  let kept := (parts.reverse.dropWhile isSuffix).reverse
  if kept = [] then parts.headD [] else Host.joinWith ['.'] kept

/-- Compare names as versions. -/
def versions (a b : Str) : Ordering :=
  let go (a b : Str) : Ordering := versionsWithin (a.length + b.length + 2) a b
  match go (withoutSuffix a) (withoutSuffix b) with
  | .eq => match go a b with
    | .eq => bytes a b
    | o => o
  | o => o

/-! ## Keys -/

/-- A part of a line that is compared, and how. -/
structure Key where
  firstField : Nat
  firstChar : Nat
  /-- The field and the character behind the part; no field is the end of the line. -/
  lastField : Option Nat
  lastChar : Nat
  blanksAtStart : Bool
  blanksAtEnd : Bool
  /-- The letters that say how the part is compared. -/
  ways : List Char

/-- Drop fields from the start of a line. -/
def dropFields (tab : Option Char) : Nat → Str → Str
  | 0, s => s
  | n + 1, s =>
    match tab with
    | some t => dropFields tab n ((s.dropWhile (· ≠ t)).drop 1)
    | none => dropFields tab n ((s.dropWhile Host.isBlank).dropWhile fun c => !Host.isBlank c)

/-- How much is left of a line behind so many fields, not counting the mark behind the last one. -/
def behindFields (tab : Option Char) (keepsMark : Bool) : Nat → Str → Str
  | 0, s => s
  | n + 1, s =>
    match tab with
    | some t =>
      let rest := s.dropWhile (· ≠ t)
      if n = 0 && !keepsMark then rest else behindFields tab keepsMark n (rest.drop 1)
    | none => behindFields tab keepsMark n ((s.dropWhile Host.isBlank).dropWhile fun c => !Host.isBlank c)

/-- The part of a line that a key is about. -/
def Key.part (k : Key) (tab : Option Char) (line : Str) : Str :=
  let start := dropFields tab k.firstField line
  let start := if k.blanksAtStart then start.dropWhile Host.isBlank else start
  let start := start.drop k.firstChar
  match k.lastField with
  | none => start
  | some f =>
    let rest :=
      if k.lastChar = 0 then behindFields tab false (f + 1) line
      else
        let s := behindFields tab true f line
        let s := if k.blanksAtEnd then s.dropWhile Host.isBlank else s
        s.drop k.lastChar
    start.take (start.length - rest.length)

/-- A part made ready to be compared as text. -/
def Key.folded (k : Key) (s : Str) : Str :=
  let s := if k.ways.contains 'd' then s.filter fun c => Host.isBlank c || c.isAlphanum
    else if k.ways.contains 'i' then s.filter fun c => 32 ≤ c.toNat && c.toNat < 127
    else s
  if k.ways.contains 'f' then Host.toUpper s else s

/-- A part with what its comparison needs. -/
inductive Prepared where
  | text (s : Str)
  | number (w : Written)
  | general (g : General)
  | month (n : Nat)
  | human (s : Str)
  | version (s : Str)

/-- Make the part of a line ready. -/
def Key.prepare (k : Key) (tab : Option Char) (line : Str) : Prepared :=
  let s := k.part tab line
  if k.ways.contains 'n' then .number (Written.of s).1
  else if k.ways.contains 'g' then .general (General.of s)
  else if k.ways.contains 'M' then .month (monthRank s)
  else if k.ways.contains 'h' then .human s
  else if k.ways.contains 'V' then .version s
  else .text (k.folded s)

/-- Compare two parts of one kind. -/
def Prepared.compare : Prepared → Prepared → Ordering
  | .number a, .number b => a.compare b
  | .general a, .general b => a.compare b
  | .month a, .month b => Ord.compare a b
  | .human a, .human b => humans a b
  | .version a, .version b => versions a b
  | .text a, .text b => bytes a b
  | _, _ => .eq

/-- A line with the parts that its keys need. -/
structure Row where
  line : Str
  parts : List Prepared

/-- An order of lines. -/
structure Plan where
  tab : Option Char
  keys : List Key
  /-- Whether the whole lines decide in the end, and whether they do so backwards. -/
  wholeDecides : Bool
  reversed : Bool

/-- Make a line ready. -/
def Plan.row (p : Plan) (line : Str) : Row := ⟨line, p.keys.map fun k => k.prepare p.tab line⟩

/-- Compare by the keys, of which the first difference counts. -/
def byKeys : List Key → List Prepared → List Prepared → Ordering
  | k :: ks, a :: as, b :: bs =>
    match a.compare b with
    | .eq => byKeys ks as bs
    | o => if k.ways.contains 'r' then o.swap else o
  | _, _, _ => .eq

/-- Compare two rows. -/
def Plan.compare (p : Plan) (a b : Row) : Ordering :=
  match byKeys p.keys a.parts b.parts with
  | .eq =>
    if p.wholeDecides then
      let o := bytes a.line b.line
      if p.reversed then o.swap else o
    else .eq
  | o => o

/-! ## Reading keys -/

/-- Letters that say how to compare. -/
def wayLetters : List Char := "bdfgiMhnRrV".toList

/-- Read a key; the error is a complaint. -/
def Key.read (s : Str) : Except Str Key := do
  let bad (words : String) : Str := str words ++ str ": invalid field specification " ++ curly s
  let count (words : String) (t : Str) : Except Str (Nat × Str) :=
    let ds := t.takeWhile Char.isDigit
    if ds = [] then .error (str words ++ str ": invalid count at start of " ++ curly t)
    else .ok (min (Host.foldDigits 10 ds) 1000000000, t.drop ds.length)
  let letters (t : Str) : Str × Str :=
    let ls := t.takeWhile fun c => wayLetters.contains c
    (ls, t.drop ls.length)
  let (f, rest) ← count "invalid number at field start" s
  if f = 0 then .error (bad "field number is zero")
  let (c, rest) ← match rest with
    | '.' :: more => do
      let (c, rest) ← count "invalid number after '.'" more
      if c = 0 then .error (bad "character offset is zero") else pure (c, rest)
    | rest => pure (1, rest)
  let (ways, rest) := letters rest
  match rest with
  | [] => return ⟨f - 1, c - 1, none, 0, ways.contains 'b', false, ways.filter (· ≠ 'b')⟩
  | ',' :: more => do
    let (g, rest) ← count "invalid number after ','" more
    if g = 0 then .error (bad "field number is zero")
    let (e, rest) ← match rest with
      | '.' :: more => count "invalid number after '.'" more
      | rest => pure (0, rest)
    let (endWays, rest) := letters rest
    if rest ≠ [] then .error (bad "stray character in field spec")
    return ⟨f - 1, c - 1, some (g - 1), e, ways.contains 'b', endWays.contains 'b',
      (ways ++ endWays).filter (· ≠ 'b')⟩
  | _ => .error (bad "stray character in field spec")

/-- The letters of ways that cannot go together, if there are some. -/
def clash (ways : List Char) : Option Str :=
  let kinds := ['g', 'h', 'M', 'n', 'R', 'V'].filter ways.contains
  let texts := ['d', 'i'].filter ways.contains
  let text := if kinds.any fun c => c ≠ 'R' && c ≠ 'V' then texts else []
  if 1 < kinds.length || (kinds ≠ [] && text ≠ []) then
    some (("dfghiMnRV".toList).filter fun c => kinds.contains c || text.contains c)
  else none

end Order

/-! ## Sorting -/

open StaleBuild.Utility.Order in
/-- Put lines in order. -/
def sort : Program := fun _ c => do
  let g ← c.read 2 "bcCdfghik:mMno:rRsS:t:T:uVy:z"
    [⟨"ignore-leading-blanks", .nothing, 'b'⟩, ⟨"check", .maybe, '\x03'⟩,
      ⟨"compress-program", .value, '\x04'⟩, ⟨"debug", .nothing, '\x05'⟩,
      ⟨"dictionary-order", .nothing, 'd'⟩, ⟨"ignore-case", .nothing, 'f'⟩,
      ⟨"files0-from", .value, '\x06'⟩, ⟨"general-numeric-sort", .nothing, 'g'⟩,
      ⟨"ignore-nonprinting", .nothing, 'i'⟩, ⟨"key", .value, 'k'⟩, ⟨"merge", .nothing, 'm'⟩,
      ⟨"month-sort", .nothing, 'M'⟩, ⟨"numeric-sort", .nothing, 'n'⟩,
      ⟨"human-numeric-sort", .nothing, 'h'⟩, ⟨"version-sort", .nothing, 'V'⟩,
      ⟨"random-sort", .nothing, 'R'⟩, ⟨"random-source", .value, '\x07'⟩, ⟨"sort", .value, '\x0b'⟩,
      ⟨"output", .value, 'o'⟩, ⟨"reverse", .nothing, 'r'⟩, ⟨"stable", .nothing, 's'⟩,
      ⟨"batch-size", .value, '\x0e'⟩, ⟨"buffer-size", .value, 'S'⟩,
      ⟨"field-separator", .value, 't'⟩, ⟨"temporary-directory", .value, 'T'⟩,
      ⟨"unique", .nothing, 'u'⟩, ⟨"zero-terminated", .nothing, 'z'⟩, ⟨"parallel", .value, '\x0f'⟩] true
  let has := g.has
  let mut kinds : List Char := []
  match g.value? '\x0b' with
  | none => pure ()
  | some v =>
    match ← c.choose "--sort" [["general-numeric"], ["human-numeric"], ["month"], ["numeric"],
        ["random"], ["version"]] v with
    | some i => kinds := [(['g', 'h', 'M', 'n', 'R', 'V'][i]?).getD 'n']
    | none =>
      c.hint
      Act.exit 1
  let mut quietly := has 'C'
  match g.options.find? fun o => o.1 = '\x03' with
  | some (_, some v) =>
    match ← c.choose "--check" [["quiet", "silent"], ["diagnose-first"]] v with
    | some i => quietly := i = 0
    | none =>
      c.hint
      Act.exit 1
  | _ => pure ()
  let mut keys : List Key := []
  for s in g.values 'k' do
    match Key.read s with
    | .ok k => keys := keys ++ [k]
    | .error complaint => c.die 2 complaint
  let tab ← match g.value? 't' with
    | none => pure none
    | some [] => c.die 2 (str "empty tab")
    | some [t] => pure (some t)
    | some s =>
      if s = str "\\0" then pure (some '\x00')
      else c.die 2 (str "multi-character tab " ++ curly s)
  match g.value? 'S' with
  | some s => if (count? s).isNone && !s.any (· = '%') then
      c.die 2 (str "invalid -S argument '" ++ s ++ ['\''])
  | none => pure ()
  let common := kinds ++ "dfghiMnrRV".toList.filter has
  let inherit (k : Key) : Key :=
    if k.ways = [] && !k.blanksAtStart && !k.blanksAtEnd then
      { k with ways := common, blanksAtStart := has 'b', blanksAtEnd := has 'b' }
    else k
  let whole : Key := ⟨0, 0, none, 0, has 'b', false, common⟩
  let needsKey := common.any (· ≠ 'r') || has 'b'
  let keys' := if keys = [] then (if needsKey then [whole] else []) else keys.map inherit
  match (common :: keys'.map Key.ways).findSome? clash with
  | some letters => c.die 2 (str "options '-" ++ letters ++ str "' are incompatible")
  | none => pure ()
  let plan : Plan := ⟨tab, keys', !has 's' && !has 'u', common.contains 'r'⟩
  let plan := if keys' = [] then { plan with wholeDecides := true } else plan
  let mark := if has 'z' then '\x00' else '\n'
  let linesIn (text : Str) : List Str :=
    let parts := Host.splitOn mark text
    if parts.getLast? = some [] then parts.dropLast else parts
  let checks := has 'c' || has 'C' || has '\x03'
  if checks && 1 < g.operands.length then
    c.die 2 (str "extra operand '" ++ (g.operands[1]?.getD []) ++ str "' not allowed with -" ++
      (if quietly then ['C'] else ['c']))
  -- what cannot be opened is found out before anything is read
  for o in g.operands do
    if o ≠ ['-'] && !checks then
      match (← Act.tree).find (Host.pathOf o) with
      | .error cause => c.die 2 (str "cannot read: " ++ beforeColon o ++ str ": " ++ Host.reason cause)
      | .ok _ => pure ()
  let mut lines : List (List Str) := []
  for o in Call.orInput g.operands do
    match ← Call.readOperand o with
    | .ok text => lines := linesIn text :: lines
    | .error cause =>
      if checks && cause ≠ .isADirectory then
        c.die 2 (str "cannot read: " ++ beforeColon o ++ str ": " ++ Host.reason cause)
      c.die 2 (str "read failed: " ++ beforeColon o ++ str ": " ++ Host.reason cause)
  let rows := lines.reverse.flatten.map plan.row
  if checks then
    let name := g.operands.headD ['-']
    let rec ordered : Nat → Row → List Row → Option (Nat × Row)
      | _, _, [] => none
      | n, a, b :: rest =>
        match plan.compare a b with
        | .gt => some (n, b)
        | .eq => if has 'u' then some (n, b) else ordered (n + 1) b rest
        | .lt => ordered (n + 1) b rest
    match rows with
    | [] => return 0
    | a :: rest =>
      match ordered 2 a rest with
      | none => return 0
      | some (n, b) =>
        if !quietly then
          c.warn (name ++ [':'] ++ Host.decimal n ++ str ": disorder: " ++ b.line)
        return 1
  let atMost (a b : Row) : Bool := plan.compare a b ≠ .gt
  let sorted := if has 'm' then
      (lines.reverse.map fun ls => ls.map plan.row).foldl (fun a b => List.merge a b atMost) []
    else rows.mergeSort atMost
  let kept :=
    if has 'u' then
      (sorted.foldl (fun (acc : List Row) r => match acc with
        | last :: _ => if plan.compare last r = .eq then acc else r :: acc
        | [] => [r]) []).reverse
    else sorted
  let out := kept.flatMap fun r => r.line ++ [mark]
  match g.value? 'o' with
  | none => Act.say out
  | some path =>
    match ← Act.writePath path out .write with
    | .ok () => pure ()
    | .error cause =>
      c.die 2 (str "open failed: " ++ beforeColon path ++ str ": " ++ Host.reason cause)
  return 0

/-! ## Repeated lines -/

/-- Lines in groups of neighbours that are alike. -/
def grouped (same : Str → Str → Bool) : List Str → List (List Str)
  | [] => []
  | l :: rest =>
    match grouped same rest with
    | (m :: ms) :: others => if same l m then (l :: m :: ms) :: others else [l] :: (m :: ms) :: others
    | others => [l] :: others

/-- Leave out or report repeated lines. -/
def uniq : Program := fun _ c => do
  let g ← c.read 1 "0123456789cdDf:is:uw:z"
    [⟨"count", .nothing, 'c'⟩, ⟨"repeated", .nothing, 'd'⟩, ⟨"all-repeated", .maybe, 'D'⟩,
      ⟨"group", .maybe, '\x03'⟩, ⟨"ignore-case", .nothing, 'i'⟩, ⟨"unique", .nothing, 'u'⟩,
      ⟨"skip-fields", .value, 'f'⟩, ⟨"skip-chars", .value, 's'⟩, ⟨"check-chars", .value, 'w'⟩,
      ⟨"zero-terminated", .nothing, 'z'⟩] true
  let has := g.has
  let number (o : Char) (words : String) : Act (Option Nat) := do
    match g.value? o with
    | none => return none
    | some s =>
      match Host.natural? s with
      | some n => return some n
      | none => c.die 1 (s ++ str ": invalid number of " ++ str words)
  let fields := (← number 'f' "fields to skip").getD 0
  let skipped := (← number 's' "bytes to skip").getD 0
  let width ← number 'w' "bytes to compare"
  let style ← match g.options.find? fun o => o.1 = '\x03' with
    | some (_, some v) =>
      match ← c.choose "--group" [["prepend"], ["append"], ["separate"], ["both"]] v with
      | some i => pure (some i)
      | none =>
        c.hint
        Act.exit 1
    | some (_, none) => pure (some 2)
    | none => pure none
  let parting ← match g.options.find? fun o => o.1 = 'D' with
    | some (_, some v) =>
      match ← c.choose "--all-repeated" [["none"], ["prepend"], ["separate"]] v with
      | some i => pure i
      | none =>
        c.hint
        Act.exit 1
    | _ => pure 0
  if style.isSome && (has 'c' || has 'd' || has 'D' || has 'u') then
    c.misused 1 (str "--group is mutually exclusive with -c/-d/-D/-u")
  if has 'c' && has 'D' then
    c.misused 1 (str "printing all duplicated lines and repeat counts is meaningless")
  if 2 < g.operands.length then c.misused 1 (str "extra operand " ++ curly (g.operands[2]?.getD []))
  let input := g.operands.headD ['-']
  let text ← match ← Call.readOperand input with
    | .ok t => pure t
    | .error .isADirectory =>
      c.die 1 (str "error reading " ++ Host.Quote.always input ++ str ": " ++ Host.reason .isADirectory)
    | .error cause => c.die 1 (beforeColon input ++ str ": " ++ Host.reason cause)
  let mark := if has 'z' then '\x00' else '\n'
  let parts := Host.splitOn mark text
  let lines := if parts.getLast? = some [] then parts.dropLast else parts
  let key (l : Str) : Str :=
    let rec drop : Nat → Str → Str
      | 0, s => s
      | n + 1, s => drop n ((s.dropWhile Host.isBlank).dropWhile fun c => !Host.isBlank c)
    let s := (drop fields l).drop skipped
    let s := match width with
      | some w => s.take w
      | none => s
    if has 'i' then Host.toLower s else s
  let groups := grouped (fun a b => key a = key b) lines
  let line (l : Str) : Str := l ++ [mark]
  let out : Str :=
    match style with
    | some i =>
      let blocks := groups.map fun ls => ls.flatMap line
      let body := Host.joinWith [mark] blocks
      if lines = [] then []
      else (if i = 0 || i = 3 then [mark] else []) ++ body ++ if i = 1 || i = 3 then [mark] else []
    | none =>
      if has 'D' then
        let blocks := (groups.filter fun ls => 1 < ls.length).map fun ls => ls.flatMap line
        if has 'u' then []
        else match parting with
          | 0 => blocks.flatten
          | 1 => blocks.flatMap fun b => mark :: b
          | _ => Host.joinWith [mark] blocks
      else
        groups.flatMap fun ls =>
          let wanted := if has 'd' then 1 < ls.length && !has 'u' else if has 'u' then ls.length = 1 else true
          if wanted then
            (if has 'c' then Host.padLeft 7 (Host.decimal (ls.length : Nat)) ++ [' '] else []) ++
              line (ls.headD [])
          else []
  match g.operands[1]? with
  | some path =>
    if path = ['-'] then Act.say out
    else match ← Act.writePath path out .write with
      | .ok () => pure ()
      | .error cause => c.die 1 (beforeColon path ++ str ": " ++ Host.reason cause)
  | none => Act.say out
  return 0

/-! ## Two files side by side -/

/-- Read the two operands of a program that compares files. -/
def twoTexts (c : Call) (g : Given) : Act (Str × Str) := do
  match g.operands with
  | [] => c.misused 1 (str "missing operand")
  | [a] => c.misused 1 (str "missing operand after " ++ curly a)
  | [a, b] =>
    let read (o : Str) : Act Str := do
      match ← Call.readOperand o with
      | .ok t => return t
      | .error cause => c.die 1 (beforeColon o ++ str ": " ++ Host.reason cause)
    let first ← read a
    let second ← read b
    return (first, second)
  | _ :: _ :: extra :: _ => c.misused 1 (str "extra operand " ++ curly extra)

/-- What is known of a file while its lines are taken: the lines that were taken, the last one first, and
those that are left. -/
structure Side where
  taken : List Str
  left : List Str

/-- The lines of a file before any is taken. -/
def Side.of (ls : List Str) : Side := ⟨[], ls⟩

/-- Take a line. -/
def Side.advance (s : Side) : Side := ⟨s.left.take 1 ++ s.taken, s.left.drop 1⟩

/-- The two lines whose order is looked at when a line has been taken: the last one and the next one, or
at the end the last two. -/
def Side.neighbours (s : Side) : Option (Str × Str) :=
  match s.taken, s.left with
  | a :: _, b :: _ => some (a, b)
  | b :: a :: _, [] => some (a, b)
  | _, _ => none

/-- Whether the line that was taken is out of order. -/
def Side.disordered (s : Side) : Bool := s.neighbours.any fun (a, b) => Order.bytes a b = .gt

/-- How the order of the lines is looked at: never, from the first line that only one file has, or
from the start, where a line out of order ends everything. -/
inductive Watch where
  | never
  | afterwards
  | always
  deriving DecidableEq

/-- What the lines of two files give: lines with the column that they belong to, or the number of a
file that is out of order. -/
inductive Merged where
  | line (column : Nat) (l : Str)
  | disorder (file : Nat)

/-- Lines of two files in one order; the two marks tell for which file disorder has been found. -/
def merged (watch : Watch) : Nat → Bool → Bool → Bool → Side → Side → List Merged
  | 0, _, _, _, _, _ => []
  | fuel + 1, unpaired, one, two, s, t =>
    let continued (column : Nat) (l : Str) (goFirst goSecond : Bool) : List Merged :=
      let unpaired := unpaired || column ≠ 3
      let watched := watch = .always || watch = .afterwards && unpaired
      let s := if goFirst then s.advance else s
      let t := if goSecond then t.advance else t
      let first := watched && !one && goFirst && s.disordered
      let second := watched && !two && goSecond && t.disordered
      .line column l :: ((if first then [.disorder 1] else []) ++
        (if second && !(first && watch = .always) then [.disorder 2] else []) ++
        if (first || second) && watch = .always then []
        else merged watch fuel unpaired (one || first) (two || second) s t)
    match s.left, t.left with
    | [], [] => []
    | a :: _, [] => continued 1 a true false
    | [], b :: _ => continued 2 b false true
    | a :: _, b :: _ =>
      match Order.bytes a b with
      | .lt => continued 1 a true false
      | .gt => continued 2 b false true
      | .eq => continued 3 a true true

/-- Write the lines that two files share, and those that only one has. -/
def comm : Program := fun _ c => do
  let g ← c.read 1 "123z"
    [⟨"check-order", .nothing, '\x03'⟩, ⟨"nocheck-order", .nothing, '\x04'⟩,
      ⟨"output-delimiter", .value, '\x05'⟩, ⟨"total", .nothing, '\x06'⟩,
      ⟨"zero-terminated", .nothing, 'z'⟩] true
  let (first, second) ← twoTexts c g
  let a := Host.linesOf first
  let b := Host.linesOf second
  let delimiter := (g.value? '\x05').getD ['\t']
  let shows (n : Nat) : Bool := !g.has (Char.ofNat (48 + n))
  let watch := if g.has '\x03' then Watch.always else if g.has '\x04' then .never else .afterwards
  let steps := merged watch (a.length + b.length + 1) false false false (Side.of a) (Side.of b)
  let lead (n : Nat) : Str :=
    (if 1 < n && shows 1 then delimiter else []) ++ if 2 < n && shows 2 then delimiter else []
  let mut status := 0
  for step in steps do
    match step with
    | .line n l => if shows n then Act.say (lead n ++ l ++ ['\n'])
    | .disorder n =>
      c.warn (str "file " ++ Host.decimal (n : Nat) ++ str " is not in sorted order")
      status := 1
  if status = 1 && watch = .always then return 1
  if g.has '\x06' then
    let count (n : Nat) : Str := Host.decimal ((steps.filter fun x => match x with
      | .line m _ => m = n
      | .disorder _ => false).length : Nat)
    Act.say (Host.joinWith delimiter [count 1, count 2, count 3, str "total"] ++ ['\n'])
  if status = 1 then c.warn (str "input is not in sorted order")
  return status

/-- The fields of a line. -/
def fieldsOf (mark : Option Char) (l : Str) : List Str :=
  match mark with
  | some t => Host.splitOn t l
  | none => Host.wordsOf l

/-- Put lines of two files together that have a field in common. -/
def join : Program := fun _ c => do
  let g ← c.read 1 "1:2:a:e:ij:o:t:v:z"
    [⟨"ignore-case", .nothing, 'i'⟩, ⟨"check-order", .nothing, '\x03'⟩,
      ⟨"nocheck-order", .nothing, '\x04'⟩, ⟨"zero-terminated", .nothing, 'z'⟩,
      ⟨"header", .nothing, '\x05'⟩] true
  let field (s : Str) : Act Nat := do
    match Host.natural? s with
    | some (n + 1) => return n
    | _ => c.die 1 (str "invalid field number: " ++ curly s)
  let common ← match g.value? 'j' with
    | some s => do pure (some (← field s))
    | none => pure none
  let one ← match g.value? '1' with
    | some s => field s
    | none => pure (common.getD 0)
  let two ← match g.value? '2' with
    | some s => field s
    | none => pure (common.getD 0)
  let mark ← match g.value? 't' with
    | none => pure none
    | some [t] => pure (some t)
    | some [] => pure (some '\n')
    | some s =>
      if s = str "\\0" then pure (some '\x00')
      else c.die 1 (str "multi-character tab " ++ curly s)
  let between := [mark.getD ' ']
  let spec ← match g.value? 'o' with
    | none => pure none
    | some s => do
      if s = str "auto" then pure none
      else
        let mut out : List (Nat × Nat) := []
        for w in (Host.splitOn ',' s).flatMap Host.wordsOf do
          match w with
          | ['0'] => out := out ++ [(0, 0)]
          | f :: '.' :: n =>
            if f = '1' || f = '2' then out := out ++ [(f.toNat - 48, ← field n)]
            else c.die 1 (str "invalid file number in field spec: " ++ curly w)
          | w => c.die 1 (str "invalid file number in field spec: " ++ curly w)
        pure (some out)
  for v in g.values 'a' ++ g.values 'v' do
    if v ≠ ['1'] && v ≠ ['2'] then c.die 1 (str "invalid field number: " ++ curly v)
  if g.operands = [['-'], ['-']] then c.die 1 (str "both files cannot be standard input")
  let (first, second) ← twoTexts c g
  let rows (text : Str) : List (List Str) := (Host.linesOf text).map (fieldsOf mark)
  let fold (s : Str) : Str := if g.has 'i' then Host.toLower s else s
  let key (n : Nat) (r : List Str) : Str := r.getD n []
  let filler := (g.value? 'e').getD []
  let line (k : Str) (a b : Option (List Str)) : Str :=
    let rest (n : Nat) (r : Option (List Str)) : List Str :=
      (r.getD []).eraseIdx n
    let fields := match spec with
      | some l => l.map fun (f, n) =>
        let v := if f = 0 then k else if f = 1 then (a.getD []).getD n [] else (b.getD []).getD n []
        if v = [] then filler else v
      | none => k :: rest one a ++ rest two b
    Host.joinWith between fields ++ ['\n']
  let lone (n : Char) : Bool := (g.values 'a').contains [n] || (g.values 'v').contains [n]
  let paired := g.values 'v' = []
  let a := rows first
  let b := rows second
  let (a, b) ← if g.has '\x05' then do
      match a, b with
      | x :: as, y :: bs =>
        Act.say (line (key one x) (some x) (some y))
        pure (as, bs)
      | a, b => pure (a, b)
    else pure (a, b)
  let mut left := a.zipIdx (if g.has '\x05' then 2 else 1)
  let mut right := b.zipIdx (if g.has '\x05' then 2 else 1)
  let mut unpaired := false
  let mut disorders : List Nat := []
  -- the complaint about a line that follows one with a greater key
  let look (file : Nat) (unpaired : Bool) (disorders : List Nat) (rs : List (List Str × Nat)) :
      Act (List Nat) := do
    match rs with
    | (x, _) :: (y, n) :: _ =>
      let k := if file = 1 then one else two
      if (g.has '\x03' || unpaired && !g.has '\x04') && !disorders.contains file &&
          Order.bytes (fold (key k x)) (fold (key k y)) = .gt then
        c.warn (g.operands.getD (file - 1) [] ++ [':'] ++ Host.decimal (n : Nat) ++
          str ": is not sorted: " ++ (Host.linesOf (if file = 1 then first else second)).getD (n - 1) [])
        if g.has '\x03' then Act.exit 1
        return file :: disorders
      else return disorders
    | _ => return disorders
  for _ in List.range (a.length + b.length + 1) do
    match left, right with
    | [], [] => break
    | (x, _) :: as, [] =>
      if lone '1' then Act.say (line (key one x) (some x) none)
      disorders ← look 1 unpaired disorders left
      left := as
    | [], (y, _) :: bs =>
      if lone '2' then Act.say (line (key two y) none (some y))
      disorders ← look 2 unpaired disorders right
      right := bs
    | (x, _) :: as, (y, _) :: bs =>
      match Order.bytes (fold (key one x)) (fold (key two y)) with
      | .lt =>
        if lone '1' then Act.say (line (key one x) (some x) none)
        disorders ← look 1 unpaired disorders left
        left := as
        unpaired := true
      | .gt =>
        if lone '2' then Act.say (line (key two y) none (some y))
        disorders ← look 2 unpaired disorders right
        right := bs
        unpaired := true
      | .eq =>
        let k := fold (key one x)
        let xs := left.takeWhile fun r => fold (key one r.1) = k
        let ys := right.takeWhile fun r => fold (key two r.1) = k
        if paired then
          for (x, _) in xs do
            for (y, _) in ys do
              Act.say (line (key one x) (some x) (some y))
        disorders ← look 1 unpaired disorders (left.drop (xs.length - 1))
        disorders ← look 2 unpaired disorders (right.drop (ys.length - 1))
        left := left.drop xs.length
        right := right.drop ys.length
  if disorders ≠ [] then
    c.warn (str "input is not in sorted order")
    return 1
  return 0

/-- Write lines in some order, which is the one they come in. -/
def shuf : Program := fun _ c => do
  let g ← c.read 1 "ei:n:o:rz"
    [⟨"echo", .nothing, 'e'⟩, ⟨"input-range", .value, 'i'⟩, ⟨"head-count", .value, 'n'⟩,
      ⟨"output", .value, 'o'⟩, ⟨"random-source", .value, '\x03'⟩, ⟨"repeat", .nothing, 'r'⟩,
      ⟨"zero-terminated", .nothing, 'z'⟩] true
  let lines ← if g.has 'e' then pure g.operands
    else match g.value? 'i' with
      | some range =>
        match Host.cut '-' range with
        | (a, some b) =>
          match Host.natural? a, Host.natural? b with
          | some a, some b => do
            if b + 1 < a then c.die 1 (str "invalid input range: " ++ curly range)
            pure ((List.range (b + 1 - a)).map fun i => Host.decimal ((a + i : Nat) : Int))
          | _, _ => c.die 1 (str "invalid input range: " ++ curly range)
        | _ => c.die 1 (str "invalid input range: " ++ curly range)
      | none =>
        match g.operands with
        | _ :: extra :: _ => c.misused 1 (str "extra operand " ++ curly extra)
        | operands =>
          match ← contentsOf c (operands.headD ['-']) with
          | some t => pure (Host.linesOf t)
          | none => Act.exit 1
  let count ← match g.value? 'n' with
    | none => pure lines.length
    | some v =>
      match Host.natural? v with
      | some n => pure n
      | none => c.die 1 (str "invalid line count: " ++ curly v)
  Act.say (Host.unlines (lines.take count))
  return 0

end StaleBuild.Utility
