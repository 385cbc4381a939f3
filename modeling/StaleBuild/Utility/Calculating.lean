import StaleBuild.Host.Options
import StaleBuild.Regex.Reader

/-!
Utilities that calculate: values of expressions given as operands, prime factors, and numbers with units.
-/

namespace StaleBuild.Utility

open Host (Str str Call Program)
open Host.Quote (curly)

/-! ## Expressions -/

namespace Evaluation

/-- A value: a number, or a text that may look like one. -/
inductive Value where
  | number (n : Int)
  | text (s : Str)

/-- The value as text. -/
def Value.shown : Value → Str
  | .number n => Host.decimal n
  | .text s => s

/-- Whether a text is a whole number with or without a minus. -/
def isWhole (s : Str) : Bool :=
  let digits := if s.head? = some '-' then s.tail else s
  digits ≠ [] && digits.all Char.isDigit

/-- The value as a number, if it is one. -/
def Value.number? : Value → Option Int
  | .number n => some n
  | .text s => if isWhole s then Host.integer? s else none

/-- Whether a value counts as false: nothing, or zero. -/
def Value.isNull : Value → Bool
  | .number n => n = 0
  | .text s =>
    let digits := if s.head? = some '-' then s.tail else s
    s = [] || (digits ≠ [] && digits.all (· = '0'))

/-- How far a reader has come: the words that are left, and the one before them. -/
structure State where
  rest : List Str
  last : Str

abbrev Evaluating := StateT State (Except Str)

/-- Go behind a word if it is next. -/
def accept (s : String) : Evaluating Bool := do
  match (← get).rest with
  | w :: rest =>
    if w = str s then
      set (⟨rest, w⟩ : State)
      return true
    else return false
  | [] => return false

/-- The next word, whatever it is. -/
def word : Evaluating Str := do
  match (← get).rest with
  | w :: rest =>
    set (⟨rest, w⟩ : State)
    return w
  | [] => throw (str "syntax error: missing argument after " ++ curly (← get).last)

/-- A number; the value has to be one. -/
def numberOf (v : Value) : Evaluating Int := do
  match v.number? with
  | some n => return n
  | none => throw (str "non-integer argument")

/-- Whether an expression has groups. -/
def hasGroup : Regex.Expr → Bool
  | .group .. => true
  | .cat a b => hasGroup a || hasGroup b
  | .alt a b => hasGroup a || hasGroup b
  | .star e => hasGroup e
  | _ => false

/-- Match a text from its start on: the group, or how many characters match. -/
def matched (s pattern : Str) : Evaluating Value := do
  match Regex.Reader.read Regex.Reader.basic pattern with
  | .error f => throw (str f.words)
  | .ok e =>
    let found := Regex.furthest (Regex.ends ⟨false, false⟩ e ⟨0, none, s, []⟩)
    match found with
    | some t =>
      if hasGroup e then
        return .text (((t.groups.find? fun g => g.1 = 1).map fun g => g.2.2).getD [])
      else return .number ((Host.characters (s.take t.index)).length : Nat)
    | none => return if hasGroup e then .text [] else .number 0

/-- The place of the first character that is among others, counted from one. -/
def placeOf (cs : List Str) : Nat → List Str → Nat
  | _, [] => 0
  | n, c :: rest => if cs.contains c then n else placeOf cs (n + 1) rest

/-- A comparison of two values: of numbers if both are, otherwise of texts. -/
def compare (op : String) (a b : Value) : Value :=
  let (less, equal) : Bool × Bool := match a.number?, b.number? with
    | some x, some y => (decide (x < y), decide (x = y))
    | _, _ => (decide (a.shown < b.shown), a.shown = b.shown)
  let holds := match op with
    | "<" => less
    | "<=" => less || equal
    | "=" => equal
    | "==" => equal
    | "!=" => !equal
    | ">=" => !less
    | _ => !less && !equal
  .number (if holds then 1 else 0)

/-- The first of some words that is next. -/
def acceptOne : List String → Evaluating (Option String)
  | [] => return none
  | w :: rest => do
    if ← accept w then return some w else acceptOne rest

mutual

/-- The first value that counts, or zero. -/
def alternatives : Nat → Bool → Evaluating Value
  | 0, _ => throw []
  | fuel + 1, live => do alternativesMore fuel live (← both fuel live)

def alternativesMore : Nat → Bool → Value → Evaluating Value
  | 0, _, v => return v
  | fuel + 1, live, v => do
    if ← accept "|" then
      let w ← both fuel (live && v.isNull)
      let r := if v.isNull then (if w.isNull then .number 0 else w) else v
      alternativesMore fuel live r
    else return v

/-- The first value if both count, or zero. -/
def both : Nat → Bool → Evaluating Value
  | 0, _ => throw []
  | fuel + 1, live => do bothMore fuel live (← comparison fuel live)

def bothMore : Nat → Bool → Value → Evaluating Value
  | 0, _, v => return v
  | fuel + 1, live, v => do
    if ← accept "&" then
      let w ← comparison fuel (live && !v.isNull)
      bothMore fuel live (if v.isNull || w.isNull then .number 0 else v)
    else return v

/-- Comparisons. -/
def comparison : Nat → Bool → Evaluating Value
  | 0, _ => throw []
  | fuel + 1, live => do comparisonMore fuel live (← sum fuel live)

def comparisonMore : Nat → Bool → Value → Evaluating Value
  | 0, _, v => return v
  | fuel + 1, live, v => do
    match ← acceptOne ["<", "<=", "=", "==", "!=", ">=", ">"] with
    | some op => do comparisonMore fuel live (compare op v (← sum fuel live))
    | none => return v

/-- Sums. -/
def sum : Nat → Bool → Evaluating Value
  | 0, _ => throw []
  | fuel + 1, live => do sumMore fuel live (← product fuel live)

def sumMore : Nat → Bool → Value → Evaluating Value
  | 0, _, v => return v
  | fuel + 1, live, v => do
    match ← acceptOne ["+", "-"] with
    | some op => do
      let w ← product fuel live
      if live then
        let a ← numberOf v
        let b ← numberOf w
        sumMore fuel live (.number (if op = "+" then a + b else a - b))
      else sumMore fuel live v
    | none => return v

/-- Products. -/
def product : Nat → Bool → Evaluating Value
  | 0, _ => throw []
  | fuel + 1, live => do productMore fuel live (← matching fuel live)

def productMore : Nat → Bool → Value → Evaluating Value
  | 0, _, v => return v
  | fuel + 1, live, v => do
    match ← acceptOne ["*", "/", "%"] with
    | some op => do
      let w ← matching fuel live
      if live then
        let a ← numberOf v
        let b ← numberOf w
        if op ≠ "*" && b = 0 then throw (str "division by zero")
        let r := if op = "*" then a * b else if op = "/" then a.tdiv b else a.tmod b
        productMore fuel live (.number r)
      else productMore fuel live v
    | none => return v

/-- Matches. -/
def matching : Nat → Bool → Evaluating Value
  | 0, _ => throw []
  | fuel + 1, live => do matchingMore fuel live (← named fuel live)

def matchingMore : Nat → Bool → Value → Evaluating Value
  | 0, _, v => return v
  | fuel + 1, live, v => do
    if ← accept ":" then
      let w ← named fuel live
      let r ← if live then matched v.shown w.shown else pure v
      matchingMore fuel live r
    else return v

/-- Operations with names. -/
def named : Nat → Bool → Evaluating Value
  | 0, _ => throw []
  | fuel + 1, live => do
    match ← acceptOne ["+", "length", "match", "index", "substr"] with
    | some "+" => return .text (← word)
    | some "length" => do
      let v ← named fuel live
      return .number ((Host.characters v.shown).length : Nat)
    | some "match" => do
      let v ← named fuel live
      let w ← named fuel live
      if live then matched v.shown w.shown else return v
    | some "index" => do
      let v ← named fuel live
      let w ← named fuel live
      return .number (placeOf (Host.characters w.shown) 1 (Host.characters v.shown) : Nat)
    | some _ => do
      let v ← named fuel live
      let first := (← named fuel live).number?
      let size := (← named fuel live).number?
      match first, size with
      | some n, some k =>
        if 0 < n && 0 < k then
          return .text (((Host.characters v.shown).drop (n - 1).toNat).take k.toNat).flatten
        else return .text []
      | _, _ => return .text []
    | none => bare fuel live

/-- A word, or an expression in brackets. -/
def bare : Nat → Bool → Evaluating Value
  | 0, _ => throw []
  | fuel + 1, live => do
    if (← get).rest.isEmpty then
      let _ ← word
    if ← accept "(" then
      let v ← alternatives fuel live
      match (← get).rest with
      | [] => throw (str "syntax error: expecting ')' after " ++ curly (← get).last)
      | w :: _ => do
        if ← accept ")" then return v
        else throw (str "syntax error: expecting ')' instead of " ++ curly w)
    else if ← accept ")" then throw (str "syntax error: unexpected ')'")
    else return .text (← word)

end

/-- The value of an expression in words. -/
def run (words : List Str) : Except Str Value := do
  let (v, s) ← (alternatives (40 * words.length + 40) true).run ⟨words, []⟩
  match s.rest with
  | [] => return v
  | w :: _ => throw (str "syntax error: unexpected argument " ++ curly w)

end Evaluation

/-- Write the value of an expression. -/
def expr : Program := fun _ c => do
  match c.args with
  | [['-', '-', 'h', 'e', 'l', 'p']] => do
    Act.say (str "Usage: " ++ c.name ++ str " EXPRESSION\n")
    return 0
  | [['-', '-', 'v', 'e', 'r', 's', 'i', 'o', 'n']] => do
    Act.say (c.name ++ str " (GNU coreutils) 9.1\n")
    return 0
  | args => do
    let words := match args with
      | ['-', '-'] :: rest => rest
      | words => words
    if words.isEmpty then c.misused 2 (str "missing operand")
    match Evaluation.run words with
    | .error message => c.die 2 message
    | .ok v => do
      Act.say (v.shown ++ ['\n'])
      return if v.isNull then 1 else 0

/-! ## Factors -/

/-- The prime factors of a number from a divisor on, the small ones first. -/
def factorsFrom : Nat → Nat → Nat → List Nat
  | 0, _, n => if 1 < n then [n] else []
  | fuel + 1, d, n =>
    if n < 2 then []
    else if n < d * d then [n]
    else if n % d = 0 then d :: factorsFrom fuel d (n / d)
    else factorsFrom fuel (if d = 2 then 3 else d + 2) n

/-- Write the prime factors of numbers. -/
def factor : Program := fun _ c => do
  let g ← c.read 1 "h" [⟨"exponents", .nothing, 'h'⟩] true
  let words ← if g.operands.isEmpty then do
      match ← Act.readFd 0 with
      | .ok s => pure (Host.wordsOf s)
      | .error _ => pure []
    else pure g.operands
  let mut status := 0
  for w in words do
    let digits := let t := w.dropWhile Host.isBlank; if t.head? = some '+' then t.tail else t
    match Host.natural? digits with
    | some n =>
      let factors := factorsFrom 20000000 2 n
      let shown := if g.has 'h' then
          factors.eraseDups.map fun f =>
            let k := factors.count f
            Host.decimal (f : Nat) ++ if k = 1 then [] else '^' :: Host.decimal (k : Nat)
        else factors.map fun f => Host.decimal (f : Nat)
      Act.say (Host.decimal (n : Nat) ++ ':' :: shown.flatMap (fun f => ' ' :: f) ++ ['\n'])
    | none => do
      c.warn (curly w ++ str " is not a valid positive integer")
      status := 1
  return status

/-! ## Numbers with units -/

namespace Measure

/-- A number with a fraction: digits, and how many of them are behind the point. -/
structure Amount where
  isNegative : Bool
  digits : Nat
  places : Nat

/-- The units, each a further power of the base. -/
def units : Str := "KMGTPEZY".toList

/-- A number at the start of a text, and what follows it. -/
def amountAt (s : Str) : Option (Amount × Str) :=
  let (isNegative, t) := if s.head? = some '-' then (true, s.tail) else (false, s)
  let whole := t.takeWhile Char.isDigit
  let rest := t.drop whole.length
  let (fraction, rest) := match rest with
    | '.' :: more =>
      let f := more.takeWhile Char.isDigit
      if f = [] then ([], rest) else (f, more.drop f.length)
    | rest => ([], rest)
  if whole = [] && fraction = [] then none
  else some (⟨isNegative, Host.foldDigits 10 (whole ++ fraction), fraction.length⟩, rest)

/-- How a quotient is rounded to a whole number. -/
inductive Rounding where
  | fromZero
  | towardsZero
  | up
  | down
  | nearest

/-- A quotient as a whole number. -/
def Rounding.apply (r : Rounding) (isNegative : Bool) (num den : Nat) : Nat :=
  let least := num / den
  let most := (num + den - 1) / den
  match r with
  | .fromZero => most
  | .towardsZero => least
  | .up => if isNegative then least else most
  | .down => if isNegative then most else least
  | .nearest => (2 * num + den) / (2 * den)

/-- A number with a unit, short enough to be read at once. -/
def human (r : Rounding) (base : Nat) (isNegative : Bool) (num den : Nat) : Str :=
  let power := ((List.range 9).reverse.find? fun p => base ^ p * den ≤ num).getD 0
  let unit := den * base ^ power
  let sign : Str := if isNegative then ['-'] else []
  let named (p : Nat) : Str := if p = 0 then [] else [units.getD (p - 1) '?']
  if power = 0 then sign ++ Host.decimal (r.apply isNegative num den : Nat)
  else
    let tenths := r.apply isNegative (10 * num) unit
    if tenths < 100 then
      sign ++ Host.decimal (tenths / 10 : Nat) ++ '.' :: Host.decimal (tenths % 10 : Nat) ++ named power
    else
      let n := r.apply isNegative num unit
      if base ≤ n then sign ++ str "1.0" ++ named (power + 1)
      else sign ++ Host.decimal (n : Nat) ++ named power

end Measure

open StaleBuild.Utility.Measure in
/-- Write numbers with other units. -/
def numfmt : Program := fun _ c => do
  let g ← c.read 1 "d:z"
    [⟨"from", .value, 'f'⟩, ⟨"from-unit", .value, '\x03'⟩, ⟨"to", .value, 't'⟩, ⟨"to-unit", .value, '\x04'⟩,
      ⟨"round", .value, 'r'⟩, ⟨"padding", .value, 'p'⟩, ⟨"suffix", .value, 's'⟩, ⟨"grouping", .nothing, 'g'⟩,
      ⟨"delimiter", .value, 'd'⟩, ⟨"field", .value, 'F'⟩, ⟨"header", .maybe, 'H'⟩, ⟨"format", .value, 'm'⟩,
      ⟨"invalid", .value, 'i'⟩, ⟨"debug", .nothing, 'D'⟩, ⟨"zero-terminated", .nothing, 'z'⟩] true
  let chosen (letter : Char) (option : String) (groups : List (List String)) : Act Nat := do
    match g.value? letter with
    | none => return 0
    | some v =>
      match ← c.choose option groups v with
      | some n => return n
      | none => do
        c.hint
        Act.exit 1
  let source ← chosen 'f' "--from" [["none"], ["auto"], ["si"], ["iec"], ["iec-i"]]
  let target ← chosen 't' "--to" [["none"], ["si"], ["iec"], ["iec-i"]]
  let rounding ← chosen 'r' "--round" [["from-zero"], ["up"], ["down"], ["towards-zero"], ["nearest"]]
  let failing ← chosen 'i' "--invalid" [["abort"], ["fail"], ["warn"], ["ignore"]]
  let rounds : Rounding := match rounding with
    | 1 => .up
    | 2 => .down
    | 3 => .towardsZero
    | 4 => .nearest
    | _ => .fromZero
  let padding : Int ← match g.value? 'p' with
    | none => pure 0
    | some p =>
      match Host.integer? p with
      | some n => if n = 0 then c.die 1 (str "invalid padding value " ++ curly p) else pure n
      | none => c.die 1 (str "invalid padding value " ++ curly p)
  let suffix := (g.value? 's').getD []
  let fieldNumber ← match g.value? 'F' with
    | none => pure 1
    | some f =>
      match Host.natural? f with
      | some n => if n = 0 then c.die 1 (str "fields are numbered from 1") else pure n
      | none => c.die 1 (str "invalid field value " ++ curly f)
  let unitOf (letter : Char) : Nat := ((g.value? letter).bind Host.natural?).getD 1
  let wrong (message : Str) : Act (Option Str) := do
    if failing = 0 then
      let _ ← Act.flush
      c.die 2 message
    else
      if failing ≠ 3 then c.warn message
      return none
  -- one number
  let converted (s : Str) : Act (Option Str) := do
    let body := if suffix ≠ [] && suffix.isSuffixOf s then s.take (s.length - suffix.length) else s
    match amountAt body with
    | none => wrong (str "invalid number: " ++ curly s)
    | some (a, rest) =>
      let unit := rest.headD ' '
      let place := (units.idxOf? (if unit = 'k' then 'K' else unit))
      let scale : Except Str Nat := match rest, place with
        | [], _ => .ok 1
        | [_], some p =>
          if source = 0 then .error (str "rejecting suffix in input: " ++ curly s ++ str " (consider using --from)")
          else if source = 4 then .error (str "missing 'i' suffix in input: " ++ curly s ++ str " (e.g Ki/Mi/Gi)")
          else .ok ((if source = 3 then 1024 else 1000) ^ (p + 1))
        | [_, 'i'], some p =>
          if source = 0 then .error (str "rejecting suffix in input: " ++ curly s ++ str " (consider using --from)")
          else if source = 1 || source = 4 then .ok (1024 ^ (p + 1))
          else .error (str "invalid suffix in input " ++ curly s ++ str ": " ++ curly ['i'])
        | _, some _ => .error (str "invalid suffix in input: " ++ curly s)
        | _, none => .error (str "invalid suffix in input: " ++ curly s)
      match scale with
      | .error message => wrong message
      | .ok n =>
        let num := a.digits * n * unitOf '\x03'
        let den := 10 ^ a.places * unitOf '\x04'
        let text := match target with
          | 0 =>
            let sign : Str := if a.isNegative then ['-'] else []
            if n = 1 && a.places ≠ 0 then
              let k := rounds.apply a.isNegative (num * 10 ^ a.places) den
              sign ++ Host.decimal (k / 10 ^ a.places : Nat) ++ '.' :: Host.padZero a.places (k % 10 ^ a.places)
            else sign ++ Host.decimal (rounds.apply a.isNegative num den : Nat)
          | 1 => human rounds 1000 a.isNegative num den
          | 2 => human rounds 1024 a.isNegative num den
          | _ =>
            let t := human rounds 1024 a.isNegative num den
            if t.getLast?.any Char.isAlpha then t ++ ['i'] else t
        let text := text ++ suffix
        return some (if 0 < padding then Host.padLeft padding.toNat text else Host.padRight (-padding).toNat text)
  let convertedLine (s : Str) : Act (Str × Bool) := do
    match g.value? 'd' with
    | some [d] => do
      let fields := Host.splitOn d s
      match fields[fieldNumber - 1]? with
      | some f => do
        let r ← converted f
        return (Host.joinWith [d] (fields.set (fieldNumber - 1) (r.getD f)), r.isSome)
      | none => return (s, true)
    | _ => do
      -- the blanks in front of a field belong to it
      let rec fields : Nat → Str → List (Str × Str)
        | 0, _ => []
        | _, [] => []
        | fuel + 1, t =>
          let blanks := t.takeWhile Host.isBlank
          let word := (t.drop blanks.length).takeWhile fun ch => !Host.isBlank ch
          (blanks, word) :: fields fuel (t.drop (blanks.length + word.length))
      let all := fields (s.length + 1) s
      match all[fieldNumber - 1]? with
      | some (blanks, word) => do
        let r ← converted word
        let front : Str := if 1 < blanks.length && padding = 0 then
            blanks.take 1 ++ Host.run (blanks.length - 1 + word.length - (r.getD word).length) ' '
          else blanks
        return ((all.set (fieldNumber - 1) (front, r.getD word)).flatMap (fun x => x.1 ++ x.2), r.isSome)
      | none => return (s, true)
  let mut status := 0
  if g.operands.isEmpty then
    match ← Act.readFd 0 with
    | .error _ => pure ()
    | .ok text =>
      let skipped := match g.options.find? fun o => o.1 = 'H' with
        | none => 0
        | some (_, v) => (v.bind Host.natural?).getD 1
      for (line, i) in (Host.linesOf text).zipIdx do
        if i < skipped then Act.say (line ++ ['\n'])
        else
          let (s, fine) ← convertedLine line
          Act.say (s ++ ['\n'])
          if !fine then status := 2
  else
    for o in g.operands do
      let (s, fine) ← convertedLine o
      Act.say (s ++ ['\n'])
      if !fine then status := 2
  return if failing = 1 || failing = 0 then status else 0

end StaleBuild.Utility
