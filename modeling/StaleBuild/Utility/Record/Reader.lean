import StaleBuild.Regex.Reader
import StaleBuild.Utility.Record.Lexeme
import StaleBuild.Utility.Record.Syntax

/-!
Reading programs that go through records. Operators bind, from the loosest on: a choice between two values,
`||`, `&&`, membership, matching, comparison, reading from a command, joining, sums, products, signs,
powers, counting and fields. An assignment takes everything that follows it.
-/

namespace StaleBuild.Utility.Record

open Host (Str str)

/-- How regular expressions are written here. -/
def style : Regex.Style := ⟨true, true, true, true, false⟩

/-- A pattern whose braces stand for themselves. -/
def braced : Bool → Str → Str
  | _, [] => []
  | inSet, '\\' :: c :: rest => '\\' :: c :: braced inSet rest
  | false, '[' :: '^' :: ']' :: rest => '[' :: '^' :: ']' :: braced true rest
  | false, '[' :: ']' :: rest => '[' :: ']' :: braced true rest
  | false, '[' :: rest => '[' :: braced true rest
  | true, ']' :: rest => ']' :: braced false rest
  | false, c :: rest =>
    if c = '\x7b' || c = '\x7d' then '\\' :: c :: braced false rest else c :: braced false rest
  | true, c :: rest => c :: braced true rest

/-- The regular expression that a text spells; the error is a complaint. -/
def regexOf (s : Str) : Except Str Regex.Expr :=
  match Regex.Reader.read style (braced false s) with
  | .ok e => .ok e
  | .error f =>
    let words := match f with
      | .group => "missing ')'"
      | .closing => "missing '('"
      | .bracket => "bad class -- [], [^] or ["
      | _ => "syntax error ^* or ^+"
    .error (str "regular expression compile failed (" ++ str words ++ str ")\n" ++ s)

namespace Reader

/-- Where a reader is: the words that are left, how many braces and brackets are open, the loops and the
function that it is in. -/
structure State where
  rest : List Lexeme
  loops : Nat
  inFunction : Bool
  /-- In the part for records, where the next one can be asked for. -/
  inRecords : Bool
  /-- The functions that are called, with the number of arguments and the line, the latest first. -/
  called : List (String × Nat × Nat)

abbrev Reading := StateT State (Except Unreadable)

/-- What may not stand at the top of an expression: a sign for more, which sends output to a file, and a
test for membership. -/
structure Context where
  noGreater : Bool
  noMember : Bool

def free : Context := ⟨false, false⟩

/-- The next word. -/
def peek : Reading Token := return ((← get).rest.head?.map Lexeme.token).getD .finish

/-- The line of the next word. -/
def line : Reading Nat := return ((← get).rest.head?.map Lexeme.line).getD 1

/-- Go behind the next word. -/
def skip : Reading Unit := modify fun s => match s.rest with
  | _ :: (b :: more) => { s with rest := b :: more }
  | _ => s

/-- How a word is shown in complaints. -/
def shown : Token → Str
  | .number x => Host.decimal ((Decimal.Binary64.ofFloat x).whole?.getD 0)
  | .text s => '"' :: s ++ ['"']
  | .regex s => '/' :: s ++ ['/']
  | .name s | .called s | .builtin s | .keyword s | .sign s => str s
  | .newline => str "end of line"
  | .finish => str "end of line"

/-- Give up at the next word. -/
def refuse {α : Type} : Reading α := do
  let t ← peek
  let n ← line
  throw ⟨n, match t with
    | .finish => str "syntax error at or near end of line"
    | t => str "syntax error at or near " ++ shown t⟩

/-- Whether the next word is a sign. -/
def at? (s : String) : Reading Bool := return (← peek) == .sign s

/-- Go behind a sign if it is next. -/
def accept (s : String) : Reading Bool := do
  if ← at? s then
    skip
    return true
  else return false

/-- Go behind a sign that has to be next. -/
def expect (s : String) : Reading Unit := do
  if !(← accept s) then
    if s = ")" then
      let n ← line
      match ← peek with
      | .newline | .finish => throw ⟨n, str "missing ) near end of line"⟩
      | .sign "\x7d" => throw ⟨n, str "missing ) near \x7d"⟩
      | .sign ";" => throw ⟨n, str "missing ) near ;"⟩
      | _ => refuse
    else if s = "\x7d" then
      match ← peek with
      | .finish => throw ⟨(← line) + 1, str "missing \x7d near end of file"⟩
      | _ => refuse
    else refuse

/-- Go behind line breaks. -/
def skipLines : Nat → Reading Unit
  | 0 => return ()
  | fuel + 1 => do
    if (← peek) == .newline then
      skip
      skipLines fuel

/-- Go behind all line breaks. -/
def lines : Reading Unit := do skipLines ((← get).rest.length)

/-- Whether an expression is a place for a value. -/
def isPlace : Expr → Bool
  | .variable _ | .field _ | .element .. => true
  | _ => false

/-- The operator of a sign that assigns. -/
def assigning? : Token → Option (Option Operator)
  | .sign "=" => some none
  | .sign "+=" => some (some .add)
  | .sign "-=" => some (some .subtract)
  | .sign "*=" => some (some .multiply)
  | .sign "/=" => some (some .divide)
  | .sign "%=" => some (some .modulo)
  | .sign "^=" => some (some .power)
  | _ => none

/-- The comparison of a sign. -/
def comparison? (k : Context) : Token → Option Comparison
  | .sign "<" => some .less
  | .sign "<=" => some .lessOrEqual
  | .sign "==" => some .equal
  | .sign "!=" => some .different
  | .sign ">" => if k.noGreater then none else some .greater
  | .sign ">=" => some .greaterOrEqual
  | _ => none

/-- Whether a word starts an operand that is joined to the one before it. -/
def joins : Token → Bool
  | .number _ | .text _ | .regex _ | .name _ | .called _ | .builtin _ => true
  | .sign s => s = "$" || s = "(" || s = "++" || s = "--"
  | _ => false

/-- How many arguments a function of the language takes. -/
def arity : String → Nat × Nat
  | "length" => (0, 1)
  | "substr" => (2, 3)
  | "index" => (2, 2)
  | "split" => (2, 3)
  | "sub" | "gsub" => (2, 3)
  | "match" => (2, 2)
  | "sprintf" => (1, 255)
  | "sin" | "cos" | "exp" | "log" | "sqrt" | "int" | "tolower" | "toupper" | "system" | "close" => (1, 1)
  | "atan2" => (2, 2)
  | "rand" | "systime" => (0, 0)
  | "srand" | "fflush" => (0, 1)
  | "strftime" => (0, 3)
  | _ => (1, 2)

mutual

/-- An expression. -/
def expr : Nat → Context → Reading Expr
  | 0, _ => refuse
  | fuel + 1, k => do
    let test ← eitherOf fuel k
    if ← accept "?" then
      lines
      let yes ← expr fuel k
      lines
      expect ":"
      lines
      let no ← expr fuel k
      return .conditional test yes no
    else return test

/-- Alternatives. -/
def eitherOf : Nat → Context → Reading Expr
  | 0, _ => refuse
  | fuel + 1, k => do
    let a ← bothOf fuel k
    eitherMore fuel k a

def eitherMore : Nat → Context → Expr → Reading Expr
  | 0, _, a => return a
  | fuel + 1, k, a => do
    if ← accept "||" then
      lines
      let b ← bothOf fuel k
      eitherMore fuel k (.either a b)
    else return a

/-- Conjunctions. -/
def bothOf : Nat → Context → Reading Expr
  | 0, _ => refuse
  | fuel + 1, k => do
    let a ← memberOf fuel k
    bothMore fuel k a

def bothMore : Nat → Context → Expr → Reading Expr
  | 0, _, a => return a
  | fuel + 1, k, a => do
    if ← accept "&&" then
      lines
      let b ← memberOf fuel k
      bothMore fuel k (.both a b)
    else return a

/-- Tests for membership. -/
def memberOf : Nat → Context → Reading Expr
  | 0, _ => refuse
  | fuel + 1, k => do
    let a ← matchingOf fuel k
    memberMore fuel k a

def memberMore : Nat → Context → Expr → Reading Expr
  | 0, _, a => return a
  | fuel + 1, k, a => do
    if !k.noMember && (← peek) == .keyword "in" then
      skip
      match ← peek with
      | .name n => do
        skip
        memberMore fuel k (.member [a] n)
      | _ => refuse
    else return a

/-- Tests for a match. -/
def matchingOf : Nat → Context → Reading Expr
  | 0, _ => refuse
  | fuel + 1, k => do
    let a ← compared fuel k
    matchingMore fuel k a

def matchingMore : Nat → Context → Expr → Reading Expr
  | 0, _, a => return a
  | fuel + 1, k, a => do
    if ← accept "~" then
      let b ← compared fuel k
      matchingMore fuel k (.matching false a b)
    else if ← accept "!~" then
      let b ← compared fuel k
      matchingMore fuel k (.matching true a b)
    else return a

/-- Comparisons. -/
def compared : Nat → Context → Reading Expr
  | 0, _ => refuse
  | fuel + 1, k => do
    let a ← piped fuel k
    comparedMore fuel k a

def comparedMore : Nat → Context → Expr → Reading Expr
  | 0, _, a => return a
  | fuel + 1, k, a => do
    match comparison? k (← peek) with
    | some c => do
      skip
      let b ← piped fuel k
      comparedMore fuel k (.compare c a b)
    | none => return a

/-- Values that are read from commands. -/
def piped : Nat → Context → Reading Expr
  | 0, _ => refuse
  | fuel + 1, k => do
    let a ← joined fuel k
    pipedMore fuel a

def pipedMore : Nat → Expr → Reading Expr
  | 0, a => return a
  | fuel + 1, a => do
    match (← get).rest with
    | ⟨.sign "|", _⟩ :: ⟨.keyword "getline", _⟩ :: _ => do
      skip
      skip
      let target ← place? fuel
      pipedMore fuel (.getline target (.command a))
    | _ => return a

/-- Joined values. -/
def joined : Nat → Context → Reading Expr
  | 0, _ => refuse
  | fuel + 1, k => do
    let a ← sum fuel k
    joinedMore fuel k a

def joinedMore : Nat → Context → Expr → Reading Expr
  | 0, _, a => return a
  | fuel + 1, k, a => do
    if joins (← peek) then
      let b ← sum fuel k
      joinedMore fuel k (.concat a b)
    else return a

/-- Sums. -/
def sum : Nat → Context → Reading Expr
  | 0, _ => refuse
  | fuel + 1, k => do
    let a ← product fuel k
    sumMore fuel k a

def sumMore : Nat → Context → Expr → Reading Expr
  | 0, _, a => return a
  | fuel + 1, k, a => do
    if ← accept "+" then
      let b ← product fuel k
      sumMore fuel k (.calculate .add a b)
    else if ← accept "-" then
      let b ← product fuel k
      sumMore fuel k (.calculate .subtract a b)
    else return a

/-- Products. -/
def product : Nat → Context → Reading Expr
  | 0, _ => refuse
  | fuel + 1, k => do
    let a ← signed fuel k
    productMore fuel k a

def productMore : Nat → Context → Expr → Reading Expr
  | 0, _, a => return a
  | fuel + 1, k, a => do
    let more (o : Operator) : Reading Expr := do
      let b ← signed fuel k
      productMore fuel k (.calculate o a b)
    if ← accept "*" then more .multiply
    else if ← accept "/" then more .divide
    else if ← accept "%" then more .modulo
    else return a

/-- Values with signs. -/
def signed : Nat → Context → Reading Expr
  | 0, _ => refuse
  | fuel + 1, k => do
    if ← accept "!" then return .negation (← signed fuel k)
    else if ← accept "-" then return .negative (← signed fuel k)
    else if ← accept "+" then return .positive (← signed fuel k)
    else powered fuel k

/-- Powers. -/
def powered : Nat → Context → Reading Expr
  | 0, _ => refuse
  | fuel + 1, k => do
    let a ← counted fuel k
    if ← accept "^" then
      let b ← signedPower fuel k
      return .calculate .power a b
    else return a

/-- The exponent of a power. -/
def signedPower : Nat → Context → Reading Expr
  | 0, _ => refuse
  | fuel + 1, k => do
    if ← accept "-" then return .negative (← signedPower fuel k)
    else if ← accept "+" then return .positive (← signedPower fuel k)
    else if ← accept "!" then return .negation (← signedPower fuel k)
    else powered fuel k

/-- Places that are counted up or down or that are assigned to. -/
def counted : Nat → Context → Reading Expr
  | 0, _ => refuse
  | fuel + 1, k => do
    if ← accept "++" then return .step (← placed fuel) true true
    else if ← accept "--" then return .step (← placed fuel) false true
    else
      let a ← primary fuel k
      if isPlace a then
        match assigning? (← peek) with
        | some operator => do
          skip
          lines
          return .assign a operator (← expr fuel k)
        | none =>
          if ← accept "++" then return .step a true false
          else if ← accept "--" then return .step a false false
          else return a
      else return a

/-- A place. -/
def placed : Nat → Reading Expr
  | 0 => refuse
  | fuel + 1 => do
    let e ← primary fuel free
    if isPlace e then return e else refuse

/-- A place, if there is one. -/
def place? : Nat → Reading (Option Expr)
  | 0 => return none
  | fuel + 1 => do
    match ← peek with
    | .name _ | .sign "$" => return some (← placed fuel)
    | _ => return none

/-- Subscripts behind an opening bracket. -/
def subscripts : Nat → Reading (List Expr)
  | 0 => refuse
  | fuel + 1 => do
    let e ← expr fuel free
    if ← accept "," then
      lines
      return e :: (← subscripts fuel)
    else
      expect "]"
      return [e]

/-- Arguments up to a closing bracket. -/
def arguments : Nat → Reading (List Expr)
  | 0 => refuse
  | fuel + 1 => do
    lines
    if ← accept ")" then return []
    let e ← expr fuel free
    lines
    if ← accept "," then
      lines
      return e :: (← arguments fuel)
    else
      expect ")"
      return [e]

/-- What stands alone. -/
def primary : Nat → Context → Reading Expr
  | 0, _ => refuse
  | fuel + 1, k => do
    match ← peek with
    | .number x => do
      skip
      return .number x
    | .text s => do
      skip
      return .text s
    | .regex s => do
      let n ← line
      skip
      match regexOf s with
      | .ok e => return .regex s e
      | .error words => throw ⟨n, words⟩
    | .sign "$" => do
      skip
      if ← accept "++" then return .field (.step (← placed fuel) true true)
      else if ← accept "--" then return .field (.step (← placed fuel) false true)
      else if ← accept "-" then return .field (.negative (← primary fuel k))
      else if ← accept "+" then return .field (← primary fuel k)
      else if ← accept "!" then return .field (.negation (← primary fuel k))
      else return .field (← primary fuel k)
    | .sign "(" => do
      skip
      lines
      let e ← expr fuel free
      lines
      if ← at? "," then
        skip
        lines
        let more ← arguments fuel
        if (← peek) == .keyword "in" then
          skip
          match ← peek with
          | .name n => do
            skip
            return .member (e :: more) n
          | _ => refuse
        else refuse
      else
        expect ")"
        return .group e
    | .sign "-" => do
      skip
      return .negative (← signed fuel k)
    | .sign "+" => do
      skip
      return .positive (← signed fuel k)
    | .sign "!" => do
      skip
      return .negation (← signed fuel k)
    | .name n => do
      skip
      if ← accept "[" then return .element n (← subscripts fuel) else return .variable n
    | .called n => do
      let l ← line
      skip
      skip
      let args ← arguments fuel
      modify fun s => { s with called := (n, args.length, l) :: s.called }
      return .call n args
    | .builtin n => do
      let l ← line
      skip
      let bracket ← accept "("
      if bracket then
        let args ← arguments fuel
        let (least, most) := arity n
        if args.length < least || most < args.length then
          throw ⟨l, str "wrong number of arguments in call to " ++ str n⟩
        else return .builtin n args
      else if n = "length" then return .builtin n []
      else refuse
    | .keyword "getline" => do
      skip
      let target ← place? fuel
      if ← accept "<" then
        let e ← primary fuel k
        return .getline target (.file e)
      else return .getline target .input
    | _ => refuse

end

/-! ## Statements -/

/-- Expressions with commas between them. -/
def list (k : Context) : Nat → Reading (List Expr)
  | 0 => refuse
  | fuel + 1 => do
    let n := (← get).rest.length
    let e ← expr (20 * n + 40) k
    if ← accept "," then
      lines
      return e :: (← list k fuel)
    else return [e]

/-- An expression, with as much room as the words that are left can need. -/
def whole (k : Context) : Reading Expr := do
  let n := (← get).rest.length
  expr (20 * n + 40) k

/-- Whether a word ends a statement that prints. -/
def endsPrint : Token → Bool
  | .newline | .finish => true
  | .sign s => s = ";" || s = "\x7d" || s = ">" || s = ">>" || s = "|"
  | _ => false

/-- What is printed: values in brackets, or values. -/
def printed : Reading (List Expr) := do
  if endsPrint (← peek) then return []
  let start ← get
  let n := start.rest.length
  let bracketed : Reading (List Expr) := do
    expect "("
    let args ← arguments (20 * n + 40)
    if endsPrint (← peek) then return args else refuse
  match if (← at? "(") then bracketed.run start else .error ⟨0, []⟩ with
  | .ok (args, s) => do
    set s
    return args
  | .error _ => list ⟨true, false⟩ n

/-- Where what is printed goes. -/
def destination : Reading Destination := do
  if ← accept ">" then return .file (← whole ⟨true, false⟩)
  else if ← accept ">>" then return .append (← whole ⟨true, false⟩)
  else if ← accept "|" then return .command (← whole ⟨true, false⟩)
  else return .standard

/-- The end of a simple statement. -/
def finished : Reading Unit := do
  match ← peek with
  | .newline | .sign ";" => do
    skip
    lines
  | .sign "\x7d" | .finish => return ()
  | _ => refuse

/-- A simple statement: one that can stand in the head of a loop. -/
def simple : Reading Statement := do
  match ← peek with
  | .keyword "print" => do
    skip
    let args ← printed
    return .print args (← destination)
  | .keyword "printf" => do
    skip
    let args ← printed
    if args.isEmpty then refuse
    return .printf args (← destination)
  | .keyword "delete" => do
    skip
    match ← peek with
    | .name n => do
      skip
      if ← accept "[" then
        let room := (← get).rest.length
        return .delete n (← subscripts (20 * room + 40))
      else return .delete n []
    | _ => refuse
  | _ => return .expression (← whole free)

/-- Something in a loop. -/
def inLoop {α : Type} (body : Reading α) : Reading α := do
  modify fun s => { s with loops := s.loops + 1 }
  let x ← body
  modify fun s => { s with loops := s.loops - 1 }
  return x

/-- Lines and semicolons that separate nothing. -/
def blanks : Nat → Reading Unit
  | 0 => return ()
  | fuel + 1 => do
    match ← peek with
    | .newline | .sign ";" => do
      skip
      blanks fuel
    | _ => return ()

/-- A value behind a word that can stand without one. -/
def optional : Reading (Option Expr) := do
  match ← peek with
  | .newline | .finish | .sign ";" | .sign "\x7d" => return none
  | _ => return some (← whole free)

/-- A statement that a line break or a semicolon ends. -/
def ended (s : Statement) : Reading Statement := do
  finished
  return s

mutual

/-- A statement. -/
def statement : Nat → Reading Statement
  | 0 => refuse
  | fuel + 1 => do
    let here ← line
    match ← peek with
    | .sign "\x7b" => do
      let body ← block fuel
      let _ ← accept ";"
      lines
      return .block body
    | .sign ";" => do
      skip
      lines
      return .block []
    | .keyword "if" => do
      skip
      expect "("
      let test ← whole free
      expect ")"
      lines
      let yes ← body fuel
      let saved ← get
      blanks saved.rest.length
      if (← peek) == .keyword "else" then
        skip
        lines
        return .choice test yes (← body fuel)
      else
        set saved
        return .choice test yes []
    | .keyword "while" => do
      skip
      expect "("
      let test ← whole free
      expect ")"
      if ← accept ";" then
        lines
        return .loop test []
      else
        lines
        return .loop test (← inLoop (body fuel))
    | .keyword "do" => do
      skip
      lines
      let inner ← inLoop (body fuel)
      let n := (← get).rest.length
      blanks n
      if (← peek) == .keyword "while" then
        skip
        expect "("
        let test ← whole free
        expect ")"
        ended (.loopAfter inner test)
      else refuse
    | .keyword "for" => do
      skip
      expect "("
      match (← get).rest with
      | ⟨.name n, _⟩ :: ⟨.keyword "in", _⟩ :: ⟨.name a, _⟩ :: ⟨.sign ")", _⟩ :: _ => do
        skip
        skip
        skip
        skip
        lines
        return .each n a (← inLoop (body fuel))
      | _ => do
        let first ← if ← at? ";" then pure [] else do pure [← simple]
        expect ";"
        lines
        let test ← if ← at? ";" then pure none else do pure (some (← whole free))
        expect ";"
        lines
        let next ← if ← at? ")" then pure [] else do pure [← simple]
        expect ")"
        if ← accept ";" then
          lines
          return .counting first test next []
        else
          lines
          return .counting first test next (← inLoop (body fuel))
    | .keyword "break" => do
      skip
      if (← get).loops = 0 then throw ⟨here, str "break statement outside of loop"⟩
      ended .break
    | .keyword "continue" => do
      skip
      if (← get).loops = 0 then throw ⟨here, str "continue statement outside of loop"⟩
      ended .continue
    | .keyword "next" => do
      skip
      if !(← get).inRecords then throw ⟨here, str "improper use of next"⟩
      ended .next
    | .keyword "nextfile" => do
      skip
      if !(← get).inRecords then throw ⟨here, str "improper use of nextfile"⟩
      ended .nextFile
    | .keyword "exit" => do
      skip
      let e ← optional
      ended (.exit e)
    | .keyword "return" => do
      skip
      if !(← get).inFunction then throw ⟨here, str "return outside function body"⟩
      let e ← optional
      ended (.giveBack e)
    | _ => do
      let s ← simple
      ended s

/-- The statement or the block that something is done with. -/
def body : Nat → Reading (List Statement)
  | 0 => refuse
  | fuel + 1 => do
    if ← at? "\x7d" then return []
    match ← statement fuel with
    | .block b => return b
    | s => return [s]

/-- Statements up to a closing brace. -/
def statements : Nat → Reading (List Statement)
  | 0 => refuse
  | fuel + 1 => do
    let n := (← get).rest.length
    blanks n
    match ← peek with
    | .sign "\x7d" => return []
    | .finish => do
      expect "\x7d"
      return []
    | _ => do
      let s ← statement fuel
      return s :: (← statements fuel)

/-- Statements in braces. -/
def block : Nat → Reading (List Statement)
  | 0 => refuse
  | fuel + 1 => do
    expect "\x7b"
    let b ← statements fuel
    expect "\x7d"
    return b

end

/-- Names with commas between them, up to a closing bracket. -/
def names : Nat → Reading (List String)
  | 0 => refuse
  | fuel + 1 => do
    match ← peek with
    | .sign ")" => do
      skip
      return []
    | .name n => do
      skip
      if ← accept "," then
        lines
        return n :: (← names fuel)
      else
        expect ")"
        return [n]
    | _ => refuse

/-- A block as an action. -/
def action (inRecords : Bool) : Reading (List Statement) := do
  modify fun s => { s with inRecords }
  let n := (← get).rest.length
  let b ← block (2 * n + 4)
  modify fun s => { s with inRecords := false }
  return b

/-- A function. -/
def function : Reading Function := do
  let take (n : String) : Reading Function := do
    skip
    expect "("
    let room := (← get).rest.length
    let parameters ← names room
    lines
    modify fun s => { s with inFunction := true }
    let b ← action true
    modify fun s => { s with inFunction := false }
    return ⟨n, parameters, b⟩
  match ← peek with
  | .name n => take n
  | .called n => take n
  | _ => refuse

/-- A rule. -/
def rule : Reading Rule := do
  match ← peek with
  | .keyword "BEGIN" => do
    skip
    return ⟨.first, some (← action false)⟩
  | .keyword "END" => do
    skip
    return ⟨.last, some (← action false)⟩
  | .sign "\x7b" => return ⟨.always, some (← action true)⟩
  | _ => do
    let a ← whole free
    let pattern ← if ← accept "," then do
        lines
        pure (Pattern.range a (← whole free))
      else pure (.holds a)
    if ← at? "\x7b" then return ⟨pattern, some (← action true)⟩
    else return ⟨pattern, none⟩

/-- Rules and functions up to the end. -/
def script : Nat → List Rule → List Function → Reading Script
  | 0, rules, functions => return ⟨rules.reverse, functions.reverse⟩
  | fuel + 1, rules, functions => do
    let n := (← get).rest.length
    blanks n
    match ← peek with
    | .finish => return ⟨rules.reverse, functions.reverse⟩
    | .sign "\x7d" => throw ⟨← line, str "extra '\x7d'"⟩
    | .keyword "function" => do
      skip
      let f ← function
      script fuel rules (f :: functions)
    | _ => do
      let r ← rule
      match ← peek with
      | .newline | .sign ";" | .finish | .sign "\x7b" | .keyword _ => pure ()
      | .sign "\x7d" => throw ⟨← line, str "extra '\x7d'"⟩
      | _ => if r.action.isNone then refuse
      script fuel (r :: rules) functions

/-- Whether a call can be made; the last argument is the line behind the program. -/
def checkCall (functions : List Function) (last : Nat) (call : String × Nat × Nat) :
    Except Unreadable Unit :=
  match functions.find? fun f => f.name = call.1 with
  | none => .error ⟨last, str "function " ++ str call.1 ++ str " never defined"⟩
  | some f =>
    if f.parameters.length < call.2.1 then
      .error ⟨call.2.2, str "too many arguments in call to " ++ str call.1⟩
    else .ok ()

/-- Read a program. -/
def read (s : Str) : Except Unreadable Script := do
  let words ← tokens (s.length + 2) .newline 1 s
  let (p, final) ← (script (words.length + 1) [] []).run ⟨words, 0, false, false, []⟩
  let last := ((words.getLast?.map Lexeme.line).getD 1) + 1
  for call in final.called.reverse do
    checkCall p.functions last call
  return p

end Reader

end StaleBuild.Utility.Record
