import StaleBuild.Host.DateText
import StaleBuild.Utility.Record.Machine

/-!
Running programs that go through records: expressions are evaluated, statements are followed, and each record
of the input is put to the rules.
-/

namespace StaleBuild.Utility.Record

open Host (Str str)
open Decimal (Binary64)

/-- How a statement ends. -/
inductive Flow where
  | onward
  /-- The loop ends. -/
  | stop
  /-- The loop goes on with its next turn. -/
  | again
  | giveBack (v : Value)

/-- A place for a value. -/
inductive Place where
  | variable (name : String)
  | field (n : Int)
  | element (id : Nat) (key : String × Option Int)

/-! ## Operators -/

/-- The value at a place. -/
def Place.read : Place → Run Value
  | .variable name => valueOf name
  | .field n => Record.field n
  | .element id key => Record.element id key

/-- Change the value at a place. -/
def Place.write : Place → Value → Run Unit
  | .variable name, v => setVariable name v
  | .field n, v => setField n v
  | .element id key, v => setElement id key v

/-- What an operator makes of two numbers. -/
def Operator.apply (o : Operator) (x y : Float) : Float :=
  match o with
  | .add => x + y
  | .subtract => x - y
  | .multiply => x * y
  | .divide => x / y
  | .modulo => (Binary64.rest (.ofFloat x) (.ofFloat y)).toFloat
  | .power => Float.pow x y

/-- Whether a comparison holds of two things of which one may be less. -/
def Comparison.holds (c : Comparison) (less equal : Bool) : Bool :=
  match c with
  | .less => less
  | .lessOrEqual => less || equal
  | .equal => equal
  | .different => !equal
  | .greater => !less && !equal
  | .greaterOrEqual => !less

/-- Compare two values: as numbers if both count as numbers. -/
def compared (c : Comparison) (a b : Value) : Run Bool := do
  if a.isNumeric && b.isNumeric then
    let x := a.toNumber
    let y := b.toNumber
    return c.holds (x < y) (x == y)
  else
    let s ← textOf a
    let t ← textOf b
    return c.holds (decide (s < t)) (s == t)

/-- A condition as a value. -/
def truth (b : Bool) : Value := .number (if b then 1 else 0)

/-! ## Functions of the language -/

/-- A number without its fraction. -/
def truncated (x : Float) : Float := if x < 0 then x.ceil else x.floor

/-- A number rounded to the nearest whole one, of two equally near ones the even one. -/
def rounded (x : Float) : Int :=
  let down := x.floor
  let n := Value.clipped down
  let half := x - down
  if half < 0.5 then n else if 0.5 < half then n + 1 else if n % 2 = 0 then n else n + 1

/-- The part of a text that starts at a number and has a length. -/
def part (s : Str) (first : Float) (length : Option Float) : Str :=
  let start := rounded first
  let size : Int := s.length
  let stop : Int := match length with
    | none => size + 1
    | some n => if n.isNaN then start else rounded (first + n)
  let low := max 1 start
  let high := min (size + 1) stop
  if high ≤ low then [] else (s.drop (low - 1).toNat).take (high - low).toNat

/-- Where a text starts in another one, counted from one, or zero. -/
def indexOf (part : Str) : Nat → Str → Nat
  | n, [] => if part = [] then (if n = 1 then 0 else n) else 0
  | n, c :: rest => if part.isPrefixOf (c :: rest) then n else indexOf part (n + 1) rest

/-- What is put for a match: backslashes in front of the mark for it count in pairs, and one that is left takes
its meaning away. -/
def replacement (found : Str) : Nat → Str → Str
  | 0, _ => []
  | _, [] => []
  | fuel + 1, '&' :: rest => found ++ replacement found fuel rest
  | fuel + 1, '\\' :: rest =>
    let n := 1 + (rest.takeWhile (· = '\\')).length
    let behind := rest.drop (n - 1)
    match behind with
    | '&' :: more =>
      let mark : Str := if n % 2 = 1 then ['&'] else found
      Host.run (n / 2) '\\' ++ mark ++ replacement found fuel more
    | behind => Host.run n '\\' ++ replacement found fuel behind
  | fuel + 1, c :: rest => c :: replacement found fuel rest

/-- Replace matches, all of them or the first one; the number of them comes back. -/
def replaced (e : Regex.Expr) (new : Str) (all : Bool) : Nat → Nat → Option Char → Bool → Str → Nat × Str
  | 0, _, _, _, s => (0, s)
  | fuel + 1, index, before, isBehind, s =>
    match Regex.searchFrom setting e index before s with
    | none => (0, s)
    | some m =>
      let front := s.take (m.first - index)
      let behind := s.drop (m.first - index)
      let found := behind.take (m.last - m.first)
      let text := front ++ replacement found (new.length + 1) new
      if m.first = m.last then
        -- nothing is found where a match has just ended
        let text := if isBehind && front = [] then [] else text
        let n := if isBehind && front = [] then 0 else 1
        match behind with
        | [] => (n, text)
        | c :: rest =>
          if n = 1 && !all then (1, text ++ behind)
          else
            let (k, t) := replaced e new all fuel (m.first + 1) (some c) false rest
            (n + k, text ++ c :: t)
      else if all then
        let (k, t) := replaced e new all fuel m.last found.getLast? true (behind.drop found.length)
        (k + 1, text ++ t)
      else (1, text ++ behind.drop found.length)

/-- Fill a format for a function of a name. -/
def formatted (name : String) (vs : List Value) : Run (Str × Option Str) := do
  match vs with
  | [] => return ([], none)
  | f :: args => do
    let format ← textOf f
    let conversion ← plainText "CONVFMT"
    let pieces := Layout.pieces (format.length + 1) format
    let (s, f) := Layout.fill (Value.shown conversion) pieces 1 args
    let place := str name ++ str "(\"" ++ format ++ str "\")"
    return (s, f.map fun
      | .tooFew => str "not enough arguments passed to " ++ place
      | .improper n => str "improper conversion(number " ++ Host.decimal (n : Nat) ++ str ") in " ++ place)

/-- Functions of the language on values. -/
def builtin (name : String) (vs : List Value) : Run Value := do
  let first := vs.headD .unset
  let second := (vs.drop 1).headD .unset
  let x := first.toNumber
  let number (y : Float) : Run Value := return .number y
  match name with
  | "length" => do
    let s ← if vs.isEmpty then record else textOf first
    return count s.length
  | "substr" => do
    let s ← textOf first
    return .text (part s second.toNumber (vs[2]?.map Value.toNumber))
  | "index" => do
    let s ← textOf first
    let t ← textOf second
    return count (indexOf t 1 s)
  | "sprintf" => do
    let (s, words) ← formatted name vs
    match words with
    | some words => fault words
    | none => return .text s
  | "sin" => number x.sin
  | "cos" => number x.cos
  | "atan2" => number (Float.atan2 x second.toNumber)
  | "exp" => number x.exp
  | "log" => number x.log
  | "sqrt" => number x.sqrt
  | "int" => number (truncated x)
  | "rand" => do number (← byChance)
  | "srand" => do
    let old := (← get).seed
    let seed : Value ← if vs.isEmpty then do
        let t ← onHost Act.now
        pure (Value.ofInt (t.fdiv Host.Calendar.second))
      else pure first
    let word := UInt32.ofNat ((Value.clipped seed.toNumber) % 2 ^ 32).toNat
    modify fun m => { m with seed, chance := chanceFrom word }
    return old
  | "tolower" => do return .text (Host.toLower (← textOf first))
  | "toupper" => do return .text (Host.toUpper (← textOf first))
  | "system" => do
    let (status, _) ← runShell (← textOf first) none false
    return count status
  | "close" => do
    let r ← close (← textOf first)
    return Value.ofInt r
  | "fflush" => do
    if vs.isEmpty then
      let _ ← onHost Act.flush
      number 0
    else
      let name ← textOf first
      let isKnown := (← get).sinks.any fun c => c.name = name
      let _ ← onHost Act.flush
      number (if isKnown || name = [] || name = str "/dev/stdout" then 0 else -1)
  | "systime" => do
    let t ← onHost Act.now
    return Value.ofInt (t.fdiv Host.Calendar.second)
  | "strftime" => do
    let format ← if vs.isEmpty then pure (str "%c") else textOf first
    let now ← onHost Act.now
    let t := if vs.length < 2 then now else Value.clipped second.toNumber * Host.Calendar.second
    return .text (Host.DateText.written Host.DateText.utc format t)
  | "mktime" => do
    let words := (Host.wordsOf (← textOf first)).filterMap Host.integer?
    match words with
    | [y, mo, d, h, mi, s] =>
      return Value.ofInt ((Host.Calendar.timeAt y mo d h mi s).fdiv Host.Calendar.second)
    | _ => number (-1)
  | _ => return .unset

/-! ## Running -/

/-- A pattern that something is matched with. -/
def patternIn : Expr → Option Regex.Expr
  | .regex _ e => some e
  | .group e => patternIn e
  | _ => none

mutual

/-- Evaluate an expression. -/
def eval : Nat → Expr → Run Value
  | 0, _ => fault (str "too much to do")
  | fuel + 1, e => do
    match e with
    | .number x => return .number x
    | .text s => return .text s
    | .regex _ p => return truth (Regex.matches? setting p (← record))
    | .variable name => valueOf name
    | .field n => do field (Value.clipped (← eval fuel n).toNumber)
    | .element name subscripts => do
      let id ← arrayOf name
      element id (← keyOf (← evalAll fuel subscripts))
    | .assign target operator value => do
      let p ← place fuel target
      let v ← eval fuel value
      match operator with
      | none => do
        p.write v
        return v
      | some o => do
        let new : Value := .number (o.apply (← p.read).toNumber v.toNumber)
        p.write new
        return new
    | .conditional test yes no => do
      if (← eval fuel test).isTrue then eval fuel yes else eval fuel no
    | .both a b => do
      if (← eval fuel a).isTrue then return truth (← eval fuel b).isTrue else return truth false
    | .either a b => do
      if (← eval fuel a).isTrue then return truth true else return truth (← eval fuel b).isTrue
    | .negation e => do return truth (!(← eval fuel e).isTrue)
    | .negative e => do return .number (-(← eval fuel e).toNumber)
    | .positive e => do return .number (← eval fuel e).toNumber
    | .member subscripts name => do
      let key ← keyOf (← evalAll fuel subscripts)
      let id ← arrayOf name
      return truth ((((← get).arrays[id]?).bind fun t => t.get? key.1).isSome)
    | .matching negated e p => do
      let s ← textOf (← eval fuel e)
      let r ← pattern fuel p
      return truth (Regex.matches? setting r s != negated)
    | .compare c a b => do
      let x ← eval fuel a
      let y ← eval fuel b
      return truth (← compared c x y)
    | .concat a b => do
      let s ← textOf (← eval fuel a)
      let t ← textOf (← eval fuel b)
      return .text (s ++ t)
    | .calculate o a b => do
      let x ← eval fuel a
      let y ← eval fuel b
      return .number (o.apply x.toNumber y.toNumber)
    | .step target up new => do
      let p ← place fuel target
      let x := (← p.read).toNumber
      let y := if up then x + 1 else x - 1
      p.write (.number y)
      return .number (if new then y else x)
    | .call name args => do
      match (← get).functions[name]? with
      | none => return .unset
      | some f => do
        let given ← bind fuel f.parameters args
        let m ← get
        let depth := m.depth + max 1 given.length
        if deepest < depth then give (str "program limit exceeded: eval stack size=1024")
        modify fun m => { m with locals := given, depth }
        let flow ← execAll fuel f.body
        modify fun n => { n with locals := m.locals, depth := m.depth }
        match flow with
        | .giveBack v => return v
        | _ => return .unset
    | .builtin name args => builtinOf fuel name args
    | .getline target source => do
      let p ← match target with
        | some t => do pure (some (← place fuel t))
        | none => pure none
      let found : Option (Option Str) ← match source with
        | .input => do
          let r ← nextRecord plenty
          pure (some r)
        | .file e => do recordFrom false (← textOf (← eval fuel e))
        | .command e => do recordFrom true (← textOf (← eval fuel e))
      match found with
      | none => return .number (-1)
      | some none => return .number 0
      | some (some s) => do
        match p with
        | some p => p.write (.given s)
        | none => setRecord s
        return .number 1
    | .group e => eval fuel e

/-- Evaluate expressions one after another. -/
def evalAll : Nat → List Expr → Run (List Value)
  | 0, _ => return []
  | _, [] => return []
  | fuel + 1, e :: rest => do
    let v ← eval fuel e
    let vs ← evalAll fuel rest
    return v :: vs

/-- The pattern that an expression gives. -/
def pattern : Nat → Expr → Run Regex.Expr
  | 0, _ => return .empty
  | fuel + 1, e => do
    match patternIn e with
    | some p => return p
    | none => do patternOf (← textOf (← eval fuel e))

/-- The place that an expression denotes. -/
def place : Nat → Expr → Run Place
  | 0, _ => return .variable ""
  | fuel + 1, e => do
    match e with
    | .variable name => return .variable name
    | .field n => do return .field (Value.clipped (← eval fuel n).toNumber)
    | .element name subscripts => do
      let id ← arrayOf name
      return .element id (← keyOf (← evalAll fuel subscripts))
    | .group e => place fuel e
    | _ => return .variable ""

/-- Bind parameters to arguments. A table is shared, and a variable without a value can become one. -/
def bind : Nat → List String → List Expr → Run (List (String × Cell))
  | 0, _, _ => return []
  | _, [], _ => return []
  | fuel + 1, p :: ps, [] => do
    let more ← bind fuel ps []
    return (p, .value .unset) :: more
  | fuel + 1, p :: ps, e :: es => do
    let c : Cell ← match e with
      | .variable name => do
        let v ← valueOf name
        match ← cell name with
        | .array id => pure (.array id)
        | .value .unset => do
          let id ← newArray
          setCell name (.array id)
          pure (.array id)
        | .value _ => pure (.value v)
      | e => do pure (.value (← eval fuel e))
    let more ← bind fuel ps es
    return (p, c) :: more

/-- Call a function of the language. -/
def builtinOf : Nat → String → List Expr → Run Value
  | 0, _, _ => return .unset
  | fuel + 1, name, args => do
    match name, args with
    | "length", [.variable a] => do
      match ← cell a with
      | .array id => return count ((((← get).arrays[id]?).map Table.size).getD 0)
      | .value _ => builtin name [← valueOf a]
    | "split", s :: .variable a :: rest => do
      let text ← textOf (← eval fuel s)
      let separator : Separator ← match rest with
        | [] => do separatorOf (← plainText "FS")
        | e :: _ => do
          match patternIn e with
          | some p => pure (.pattern p)
          | none => do separatorOf (← textOf (← eval fuel e))
      let parts := separator.parts text
      let id ← arrayOf a
      fillArray id (parts.map Value.given)
      return count parts.length
    | "match", [s, p] => do
      let text ← textOf (← eval fuel s)
      let e ← pattern fuel p
      let (first, size) : Int × Int := match Regex.search setting e text with
        | some m => (m.first + 1, m.last - m.first)
        | none => (0, -1)
      setCell "RSTART" (.value (Value.ofInt first))
      setCell "RLENGTH" (.value (Value.ofInt size))
      return Value.ofInt first
    | "sub", p :: new :: rest => substitute fuel false p new rest
    | "gsub", p :: new :: rest => substitute fuel true p new rest
    | name, args => do builtin name (← evalAll fuel args)

/-- Replace matches at a place. -/
def substitute : Nat → Bool → Expr → Expr → List Expr → Run Value
  | 0, _, _, _, _ => return .unset
  | fuel + 1, all, p, new, rest => do
    let e ← pattern fuel p
    let text ← textOf (← eval fuel new)
    let where_ : Expr := rest.headD (.field (.number 0))
    let at_ ← place fuel where_
    let isPlace := match where_ with
      | .variable _ | .field _ | .element .. => true
      | _ => false
    let old ← if isPlace then textOf (← at_.read) else textOf (← eval fuel where_)
    let (n, s) := replaced e text all (old.length + 2) 0 none false old
    if n ≠ 0 && isPlace then at_.write (.text s)
    return count n

/-- Follow statements. -/
def execAll : Nat → List Statement → Run Flow
  | 0, _ => return .onward
  | _, [] => return .onward
  | fuel + 1, s :: rest => do
    match ← exec fuel s with
    | .onward => execAll fuel rest
    | f => return f

/-- Put a text where a statement sends it. -/
def deliver : Nat → Destination → Str → Run Unit
  | 0, _, _ => return ()
  | fuel + 1, sink, text => do
    match sink with
    | .standard => onHost (Act.say text)
    | .file e => do deliverTo false false (← textOf (← eval fuel e)) text
    | .append e => do deliverTo false true (← textOf (← eval fuel e)) text
    | .command e => do deliverTo true false (← textOf (← eval fuel e)) text

/-- Follow a statement. -/
def exec : Nat → Statement → Run Flow
  | 0, _ => return .onward
  | fuel + 1, s => do
    match s with
    | .expression e => do
      let _ ← eval fuel e
      return .onward
    | .print args sink => do
      let format ← plainText "OFMT"
      let line ← if args.isEmpty then record
        else do
          let vs ← evalAll fuel args
          pure (Host.joinWith (← plainText "OFS") (vs.map (Value.shown format)))
      deliver fuel sink (line ++ (← plainText "ORS"))
      return .onward
    | .printf args sink => do
      let (text, words) ← formatted "printf" (← evalAll fuel args)
      deliver fuel sink text
      match words with
      | some words => fault words
      | none => return .onward
    | .choice test yes no => do
      if (← eval fuel test).isTrue then execAll fuel yes else execAll fuel no
    | .loop test body => loop fuel (some test) [] body
    | .loopAfter body test => do
      match ← execAll fuel body with
      | .stop => return .onward
      | .giveBack v => return .giveBack v
      | _ => loop fuel (some test) [] body
    | .counting first test next body => do
      let _ ← execAll fuel first
      loop fuel test next body
    | .each name array body => do
      let id ← arrayOf array
      let (t, keys) := (((← get).arrays[id]?).getD .empty).inOrder
      onTable id fun _ => t
      each fuel name keys body
    | .block body => execAll fuel body
    | .next => throw .next
    | .nextFile => throw .nextFile
    | .exit e => do
      match e with
      | some e => do
        let v ← eval fuel e
        modify fun m => { m with status := ((Value.clipped v.toNumber) % 256).toNat }
      | none => pure ()
      throw .exit
    | .giveBack e => do
      match e with
      | some e => return .giveBack (← eval fuel e)
      | none => return .giveBack .unset
    | .break => return .stop
    | .continue => return .again
    | .delete name subscripts => do
      let id ← arrayOf name
      if subscripts.isEmpty then onTable id fun _ => .empty
      else
        let key ← keyOf (← evalAll fuel subscripts)
        onTable id fun t => t.erase key.1
      return .onward

/-- Follow statements as long as a condition holds. -/
def loop : Nat → Option Expr → List Statement → List Statement → Run Flow
  | 0, _, _, _ => return .onward
  | fuel + 1, test, next, body => do
    let goes ← match test with
      | some e => do pure (← eval fuel e).isTrue
      | none => pure true
    if goes then
      match ← execAll fuel body with
      | .stop => return .onward
      | .giveBack v => return .giveBack v
      | _ => do
        let _ ← execAll fuel next
        loop fuel test next body
    else return .onward

/-- Follow statements for each of some keys. -/
def each : Nat → String → List String → List Statement → Run Flow
  | 0, _, _, _ => return .onward
  | _, _, [], _ => return .onward
  | fuel + 1, name, key :: rest, body => do
    setVariable name (.text key.toList)
    match ← execAll fuel body with
    | .stop => return .onward
    | .giveBack v => return .giveBack v
    | _ => each fuel name rest body

end

/-! ## Rules -/

/-- Do the action of a rule. -/
def act (action : Option (List Statement)) : Run Unit := do
  match action with
  | some body => do
    let _ ← execAll plenty body
  | none => do
    let line ← record
    onHost (Act.say (line ++ (← plainText "ORS")))

/-- Put the record to a rule; the number is that of the rule. -/
def consider (n : Nat) (r : Rule) : Run Unit := do
  match r.pattern with
  | .first => return ()
  | .last => return ()
  | .always => act r.action
  | .holds e => do if (← eval plenty e).isTrue then act r.action
  | .range a b => do
    let isOn := (← get).ranges.contains n
    let starts ← if isOn then pure true else do pure (← eval plenty a).isTrue
    if starts then
      let ends := (← eval plenty b).isTrue
      modify fun m =>
        let others := m.ranges.filter (· ≠ n)
        { m with ranges := if ends then others else n :: others }
      act r.action

/-- Put each record of the input to the rules. -/
def records (rules : List (Rule × Nat)) : Nat → Run Unit
  | 0 => return ()
  | fuel + 1 => do
    match ← nextRecord plenty with
    | none => return ()
    | some s => do
      setRecord s
      let turn : Run Unit := do
        for (r, n) in rules do
          consider n r
      let skipped : Run Bool := tryCatch (do
          turn
          return false) fun
        | .next => return false
        | .nextFile => return true
        | .exit => throw .exit
      if ← skipped then modify fun m => { m with input := none }
      records rules fuel

/-- Do something up to the end of the program; whether the end came. -/
def untilExit (body : Run Unit) : Run Bool := tryCatch (do
    body
    return false) fun
  | .exit => return true
  | _ => return false

/-- Run a script. -/
def run (p : Script) : Run Unit := do
  let of (isThis : Pattern → Bool) : List Rule := p.rules.filter fun r => isThis r.pattern
  let firsts := of fun | .first => true | _ => false
  let lasts := of fun | .last => true | _ => false
  let others := of fun | .first => false | .last => false | _ => true
  let ended ← untilExit do
    for r in firsts do
      act r.action
  if !ended && !(lasts.isEmpty && others.isEmpty) then
    let _ ← untilExit (records others.zipIdx plenty)
  let _ ← untilExit do
    for r in lasts do
      act r.action
  closeAll

end StaleBuild.Utility.Record
