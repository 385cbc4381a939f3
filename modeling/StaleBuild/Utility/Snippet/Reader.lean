import StaleBuild.Utility.Snippet.Lexeme

/-!
Reading a program. Operators bind in levels, each of which takes operands of the next one; a bound on the
depth, which no program of so many words reaches, makes the reading end.
-/

namespace StaleBuild.Utility.Snippet

/-- Reading from words. -/
abbrev Read := StateT (List Token) (Except Fault)

namespace Read

/-- The next word. -/
def peek : Read Lexeme := return ((← get).head?.map Token.lexeme).getD .finish

/-- Go on behind the next word. -/
def skip : Read Unit := modify List.tail

/-- A fault at the next word. -/
def faultOf {α : Type} (kind words : String) : Read α := do
  match ← get with
  | t :: _ => throw ⟨kind, words, t.line, t.column, t.width⟩
  | [] => throw ⟨kind, words, 1, 0, 0⟩

def fault {α : Type} (words : String) : Read α := faultOf "SyntaxError" words

def wrong {α : Type} : Read α := fault "invalid syntax"

/-- A fault at all words since a place. -/
def faultSince {α : Type} (start : List Token) (words : String) : Read α := do
  let read := start.take (start.length - (← get).length)
  match read.head?, read.getLast? with
  | some a, some b =>
    throw ⟨"SyntaxError", words, a.line, a.column, if a.line = b.line then b.column + b.width - a.column else a.width⟩
  | _, _ => fault words

/-- Whether the next word is a sign. -/
def isSign (s : String) : Read Bool := do
  match ← peek with
  | .sign t => return s = t
  | _ => return false

/-- Whether the next word is a name, such as that of a keyword. -/
def isWord (s : String) : Read Bool := do
  match ← peek with
  | .name t => return s = t
  | _ => return false

/-- Take a sign if it is next. -/
def accept (s : String) : Read Bool := do
  if ← isSign s then
    skip
    return true
  return false

/-- Take a keyword if it is next. -/
def acceptWord (s : String) : Read Bool := do
  if ← isWord s then
    skip
    return true
  return false

/-- Take a sign that must be next. -/
def expect (s : String) : Read Unit := do
  if !(← accept s) then
    if s = ":" then fault "expected ':'" else wrong

def expectWord (s : String) : Read Unit := do
  if !(← acceptWord s) then wrong

/-- The words that no variable has. -/
def keywords : List String :=
  ["False", "None", "True", "and", "as", "assert", "async", "await", "break", "class", "continue", "def",
    "del", "elif", "else", "except", "finally", "for", "from", "global", "if", "import", "in", "is",
    "lambda", "nonlocal", "not", "or", "pass", "raise", "return", "try", "while", "with", "yield"]

/-- Take the name of a variable. -/
def identifier : Read String := do
  match ← peek with
  | .name s =>
    if keywords.contains s then wrong
    skip
    return s
  | _ => wrong

/-- The operators of a level. -/
def operators : Nat → List (String × Operator)
  | 4 => [("|", .bitOr)]
  | 5 => [("^", .bitXor)]
  | 6 => [("&", .bitAnd)]
  | 7 => [("<<", .shiftLeft), (">>", .shiftRight)]
  | 8 => [("+", .add), ("-", .sub)]
  | 9 => [("*", .mul), ("/", .div), ("//", .floorDiv), ("%", .mod)]
  | _ => []

/-- The relations that are signs. -/
def relations : List (String × Relation) :=
  [("==", .eq), ("!=", .ne), ("<", .lt), ("<=", .le), (">", .gt), (">=", .ge)]

/-- Take a relation if one is next. -/
def relation? : Read (Option Relation) := do
  match ← peek with
  | .sign s =>
    match relations.find? fun r => r.1 = s with
    | some (_, r) => do
      skip
      return some r
    | none => return none
  | .name "in" => do
    skip
    return some .isIn
  | .name "not" => do
    match (← get).tail.head?.map Token.lexeme with
    | some (.name "in") => do
      skip
      skip
      return some .notIn
    | _ => return none
  | .name "is" => do
    skip
    if ← acceptWord "not" then return some .notSame else return some .same
  | _ => return none

/-- Whether an expression can start with the next word. -/
def startsExpression : Read Bool := do
  match ← peek with
  | .name s =>
    return !keywords.contains s || ["False", "None", "True", "not", "lambda", "await"].contains s
  | .sign s => return ["(", "[", "\x7b", "-", "+", "~", "...", "*"].contains s
  | .newline => return false
  | .indent => return false
  | .dedent => return false
  | .finish => return false
  | _ => return true

/-- The end of an expression within a text: up to a mark outside brackets and texts. -/
def expressionEnd (depth : Nat) (quote : Option Char) : Text → Text × Text
  | [] => ([], [])
  | c :: rest =>
    let go (depth : Nat) (quote : Option Char) : Text × Text :=
      let (a, b) := expressionEnd depth quote rest
      (c :: a, b)
    match quote with
    | some q => if c = q then go depth none else go depth (some q)
    | none =>
      if c = '\'' || c = '"' then go depth (some c)
      else if c = '(' || c = '[' || c = Char.ofNat 0x7b then go (depth + 1) none
      else if depth = 0 && (c = Char.ofNat 0x7d || c = ':') then ([], c :: rest)
      else if depth = 0 && c = '!' && rest.head? ≠ some '=' then ([], c :: rest)
      else if c = ')' || c = ']' || c = Char.ofNat 0x7d then go (depth - 1) none
      else go depth none

/-- The literal text up to a value, where a doubled brace is a brace. -/
def literalEnd (nested : Bool) : Text → Text × Text
  | [] => ([], [])
  | c :: rest =>
    if c = Char.ofNat 0x7b then
      match rest with
      | d :: more =>
        if d = c && !nested then
          let (a, b) := literalEnd nested more
          (c :: a, b)
        else ([], c :: rest)
      | [] => ([], [c])
    else if c = Char.ofNat 0x7d then
      match rest with
      | d :: more =>
        if d = c && !nested then
          let (a, b) := literalEnd nested more
          (c :: a, b)
        else ([], c :: rest)
      | [] => ([], [c])
    else
      let (a, b) := literalEnd nested rest
      (c :: a, b)

mutual

/-- An expression with all that can be in one. -/
def expression : Nat → Read Expr
  | 0 => fault "too many nested parentheses"
  | fuel + 1 => do
    if ← acceptWord "lambda" then
      let ps ← parameters fuel ":"
      let body ← expression fuel
      return .lambda ps body
    match ← get with
    | ⟨.name n, _, _, _⟩ :: ⟨.sign ":=", _, _, _⟩ :: rest =>
      set rest
      return .binding n (← expression fuel)
    | _ =>
      let e ← operand fuel 0
      if ← acceptWord "if" then
        let condition ← operand fuel 0
        expectWord "else"
        return .choice condition e (← expression fuel)
      return e

/-- Expressions between commas, which are a tuple if there is a comma. -/
def expressions : Nat → Read Expr
  | 0 => wrong
  | fuel + 1 => do
    let first ← starred fuel
    if ← isSign "," then return .tuple (first :: (← more fuel))
    return first

/-- More expressions behind commas. -/
def more : Nat → Read (List Expr)
  | 0 => wrong
  | fuel + 1 => do
    if ← accept "," then
      if ← startsExpression then
        let e ← starred fuel
        return e :: (← more fuel)
    return []

/-- An expression that may be spread out. -/
def starred : Nat → Read Expr
  | 0 => wrong
  | fuel + 1 => do
    if ← accept "*" then return .spread (← operand fuel 4)
    expression fuel

/-- An operand of a level. -/
def operand : Nat → Nat → Read Expr
  | 0, _ => fault "too many nested parentheses"
  | fuel + 1, 0 => do
    let e ← operand fuel 1
    if ← acceptWord "or" then return .either e (← operand fuel 0)
    return e
  | fuel + 1, 1 => do
    let e ← operand fuel 2
    if ← acceptWord "and" then return .both e (← operand fuel 1)
    return e
  | fuel + 1, 2 => do
    if ← acceptWord "not" then return .not (← operand fuel 2)
    operand fuel 3
  | fuel + 1, 3 => do
    let e ← operand fuel 4
    match ← compared fuel with
    | [] => return e
    | rest => return .compare e rest
  | fuel + 1, 10 => do
    if ← accept "-" then return .negate (← operand fuel 10)
    if ← accept "+" then return .plus (← operand fuel 10)
    if ← accept "~" then return .invert (← operand fuel 10)
    let e ← primary fuel
    if ← accept "**" then return .binary .pow e (← operand fuel 10)
    return e
  | fuel + 1, level => do
    let e ← operand fuel (level + 1)
    chain fuel level e

/-- Operators of a level behind an operand, which bind to the left. -/
def chain : Nat → Nat → Expr → Read Expr
  | 0, _, _ => wrong
  | fuel + 1, level, left => do
    match ← peek with
    | .sign s =>
      match (operators level).find? fun o => o.1 = s with
      | some (_, op) => do
        skip
        let right ← operand fuel (level + 1)
        chain fuel level (.binary op left right)
      | none => return left
    | _ => return left

/-- Comparisons behind an operand. -/
def compared : Nat → Read (List (Relation × Expr))
  | 0 => wrong
  | fuel + 1 => do
    match ← relation? with
    | some r => do
      let e ← operand fuel 4
      return (r, e) :: (← compared fuel)
    | none => return []

/-- A value with what is asked of it. -/
def primary : Nat → Read Expr
  | 0 => wrong
  | fuel + 1 => do
    let e ← atom fuel
    trailers fuel e

/-- Attributes, items and calls behind a value. -/
def trailers : Nat → Expr → Read Expr
  | 0, _ => wrong
  | fuel + 1, e => do
    if ← accept "." then
      let n ← identifier
      trailers fuel (.attribute e n)
    else if ← accept "(" then
      let args ← arguments fuel
      trailers fuel (.call e args)
    else if ← accept "[" then
      let first ← subscript fuel
      let i ← if ← isSign "," then pure (Expr.tuple (first :: (← subscripts fuel))) else pure first
      expect "]"
      trailers fuel (.item e i)
    else return e

/-- An item or a part of a sequence. -/
def subscript : Nat → Read Expr
  | 0 => wrong
  | fuel + 1 => do
    let bound : Read (Option Expr) := do
      if (← isSign ":") || (← isSign "]") || (← isSign ",") then return none
      return some (← expression fuel)
    let a ← bound
    if ← accept ":" then
      let b ← bound
      let step ← if ← accept ":" then bound else pure none
      return .slice a b step
    match a with
    | some e => return e
    | none => wrong

def subscripts : Nat → Read (List Expr)
  | 0 => wrong
  | fuel + 1 => do
    if ← accept "," then
      if ← isSign "]" then return []
      let e ← subscript fuel
      return e :: (← subscripts fuel)
    return []

/-- The arguments of a call, up to the closing bracket. -/
def arguments : Nat → Read (List Argument)
  | 0 => wrong
  | fuel + 1 => do
    if ← accept ")" then return []
    let start ← get
    let a ← argument fuel
    if ← accept "," then return a :: (← arguments fuel)
    if !(← isSign ")") then
      match a, ← peek with
      | .mk none 0 (.name _), .text _ => wrong
      | _, _ =>
        if ← startsExpression then
          let _ ← expression fuel
          faultSince start "invalid syntax. Perhaps you forgot a comma?"
    expect ")"
    return [a]

/-- An argument of a call. -/
def argument : Nat → Read Argument
  | 0 => wrong
  | fuel + 1 => do
    if ← accept "**" then return .mk none 2 (← expression fuel)
    if ← accept "*" then return .mk none 1 (← expression fuel)
    match ← get with
    | ⟨.name n, _, _, _⟩ :: ⟨.sign "=", _, _, _⟩ :: rest =>
      set rest
      return .mk (some n) 0 (← expression fuel)
    | _ =>
      let e ← expression fuel
      if (← isWord "for") then return .mk none 0 (.each .generator none e (← clauses fuel))
      return .mk none 0 e

/-- The loops and conditions of a loop in an expression. -/
def clauses : Nat → Read (List Clause)
  | 0 => wrong
  | fuel + 1 => do
    if ← acceptWord "for" then
      let t ← targets fuel
      expectWord "in"
      let e ← operand fuel 0
      return .source t e :: (← clauses fuel)
    if ← acceptWord "if" then
      let e ← operand fuel 0
      return .guard e :: (← clauses fuel)
    return []

/-- What a loop gives values to. -/
def targets : Nat → Read Expr
  | 0 => wrong
  | fuel + 1 => do
    let star ← accept "*"
    let e ← operand fuel 4
    let first := if star then Expr.spread e else e
    if ← isSign "," then return .tuple (first :: (← moreTargets fuel))
    return first

def moreTargets : Nat → Read (List Expr)
  | 0 => wrong
  | fuel + 1 => do
    if ← accept "," then
      if (← isWord "in") || (← isSign "=") then return []
      let star ← accept "*"
      let e ← operand fuel 4
      return (if star then Expr.spread e else e) :: (← moreTargets fuel)
    return []

/-- The parameters of a function up to a sign. -/
def parameters : Nat → String → Read (List Parameter)
  | 0, _ => wrong
  | fuel + 1, finish => do
    if ← accept finish then return []
    let stars ← if ← accept "**" then pure 2 else if ← accept "*" then pure 1 else pure 0
    if stars = 1 && (← isSign ",") then
      expect ","
      return .mk "" none 1 :: (← parameters fuel finish)
    if ← accept "/" then
      if !(← accept ",") then
        expect finish
        return []
      parameters fuel finish
    else
      let n ← identifier
      if finish = ")" then
        if ← accept ":" then
          let _ ← expression fuel
      let value ← if ← accept "=" then pure (some (← expression fuel)) else pure none
      let p := Parameter.mk n value stars
      if ← accept "," then return p :: (← parameters fuel finish)
      expect finish
      return [p]

/-- A value that is written down, a name, or something in brackets. -/
def atom : Nat → Read Expr
  | 0 => wrong
  | fuel + 1 => do
    match ← peek with
    | .whole n => do
      skip
      return .whole n
    | .real x => do
      skip
      return .real x
    | .bytes s => do
      skip
      match ← atomBytes fuel with
      | some more => return .bytes (s ++ more)
      | none => return .bytes s
    | .text _ => do
      let parts ← texts fuel
      match parts with
      | [] => return .text []
      | [.literal s] => return .text s
      | parts => return .joined parts
    | .joined _ _ => return .joined (← texts fuel)
    | .name "None" => do
      skip
      return .nothing
    | .name "True" => do
      skip
      return .truth true
    | .name "False" => do
      skip
      return .truth false
    | .name _ => return .name (← identifier)
    | .sign "..." => do
      skip
      return .ellipsis
    | .sign "(" => do
      skip
      if ← accept ")" then return .tuple []
      let first ← starred fuel
      if ← isWord "for" then
        let cs ← clauses fuel
        expect ")"
        return .each .generator none first cs
      if ← isSign "," then
        let rest ← more fuel
        expect ")"
        return .tuple (first :: rest)
      expect ")"
      return first
    | .sign "[" => do
      skip
      if ← accept "]" then return .list []
      let first ← starred fuel
      if ← isWord "for" then
        let cs ← clauses fuel
        expect "]"
        return .each .list none first cs
      let rest ← more fuel
      expect "]"
      return .list (first :: rest)
    | .sign "\x7b" => do
      skip
      if ← accept "\x7d" then return .dict []
      if ← accept "**" then
        let e ← operand fuel 4
        return .dict ((none, e) :: (← pairs fuel))
      let first ← starred fuel
      if ← accept ":" then
        let value ← expression fuel
        if ← isWord "for" then
          let cs ← clauses fuel
          expect "\x7d"
          return .each .dict (some first) value cs
        return .dict ((some first, value) :: (← pairs fuel))
      if ← isWord "for" then
        let cs ← clauses fuel
        expect "\x7d"
        return .each .set none first cs
      let rest ← more fuel
      expect "\x7d"
      return .set (first :: rest)
    | _ => wrong

/-- More texts of bytes. -/
def atomBytes : Nat → Read (Option Text)
  | 0 => wrong
  | fuel + 1 => do
    match ← peek with
    | .bytes s => do
      skip
      match ← atomBytes fuel with
      | some more => return some (s ++ more)
      | none => return some s
    | _ => return none

/-- Texts beside each other, which are one. -/
def texts : Nat → Read (List Part)
  | 0 => wrong
  | fuel + 1 => do
    match ← peek with
    | .text s => do
      skip
      match ← texts fuel with
      | .literal t :: rest => return .literal (s ++ t) :: rest
      | rest => return .literal s :: rest
    | .joined isRaw s => do
      skip
      let (ps, _) ← parts fuel isRaw false s
      return ps ++ (← texts fuel)
    | _ => return []

/-- More pairs of a table, up to the closing bracket. -/
def pairs : Nat → Read (List (Option Expr × Expr))
  | 0 => wrong
  | fuel + 1 => do
    if ← accept "," then
      if ← accept "\x7d" then return []
      if ← accept "**" then
        let e ← operand fuel 4
        return (none, e) :: (← pairs fuel)
      let k ← expression fuel
      expect ":"
      let v ← expression fuel
      return (some k, v) :: (← pairs fuel)
    expect "\x7d"
    return []

/-- The parts of a text with values in it; a nested one ends at a brace. -/
def parts : Nat → Bool → Bool → Text → Read (List Part × Text)
  | 0, _, _, _ => wrong
  | fuel + 1, isRaw, nested, s => do
    let (front, rest) := literalEnd nested s
    let literal : List Part :=
      if front.isEmpty then []
      else [.literal (if isRaw then front else unescaped false front.length front)]
    match rest with
    | [] => return (literal, [])
    | c :: rest =>
      if c = Char.ofNat 0x7d then
        if nested then return (literal, rest) else fault "f-string: single '\x7d' is not allowed"
      else
        let (inner, rest) := expressionEnd 0 none rest
        let shows := inner.reverse.dropWhile (· = ' ') |>.head? |> (· = some '=')
        let source := if shows then (inner.reverse.dropWhile (· = ' ')).tail.reverse else inner
        if source.all Host.isSpace then fault "f-string: empty expression not allowed"
        let outer ← get
        let words ← match tokens ('(' :: source ++ [')']) with
          | .ok ts => pure ts
          | .error f => fault ("f-string: " ++ f.words)
        set words
        let e ← expression fuel
        match ← peek with
        | .newline => pure ()
        | _ => fault "f-string: invalid syntax"
        set outer
        let (conversion, rest) := match rest with
          | '!' :: k :: more => (some k, more)
          | rest => (none, rest)
        let (format, rest) ← match rest with
          | ':' :: more => parts fuel isRaw true more
          | c :: more => if c = Char.ofNat 0x7d then pure ([], more) else fault "f-string: expecting '\x7d'"
          | [] => fault "f-string: expecting '\x7d'"
        let conversion := if shows && conversion.isNone && format.isEmpty then some 'r' else conversion
        let shown : List Part := if shows then [.literal inner] else []
        let (others, rest) ← parts fuel isRaw nested rest
        return (literal ++ shown ++ .value e conversion format :: others, rest)

end

/-! ## Statements -/

/-- A path of names with points between them. -/
def dotted : Nat → Read (List String)
  | 0 => wrong
  | fuel + 1 => do
    let n ← identifier
    if ← accept "." then return n :: (← dotted fuel)
    return [n]

/-- Things with commas between them. -/
def separated {α : Type} (item : Read α) : Nat → Read (List α)
  | 0 => wrong
  | fuel + 1 => do
    let a ← item
    if ← accept "," then return a :: (← separated item fuel)
    return [a]

/-- A name with another name for it. -/
def renamed : Read (String × Option String) := do
  let n ← if ← accept "*" then pure "*" else identifier
  if ← acceptWord "as" then return (n, some (← identifier))
  return (n, none)

/-- The signs of assignments that calculate. -/
def augmented : List (String × Operator) :=
  [("+=", .add), ("-=", .sub), ("*=", .mul), ("/=", .div), ("//=", .floorDiv), ("%=", .mod), ("**=", .pow),
    ("<<=", .shiftLeft), (">>=", .shiftRight), ("&=", .bitAnd), ("|=", .bitOr), ("^=", .bitXor)]

/-- More values of an assignment. -/
def assigned (fuel : Nat) : Nat → Read (List Expr)
  | 0 => wrong
  | n + 1 => do
    if ← accept "=" then
      let e ← expressions fuel
      return e :: (← assigned fuel n)
    return []

/-- A statement that starts with an expression. -/
def assignment (fuel : Nat) : Read Kind := do
  let place ← get
  let start := place.head?
  let e ← expressions fuel
  if ← accept ":" then
    let _ ← expression fuel
    if ← accept "=" then return .assign [e] (← expressions fuel)
    return .pass
  match ← peek with
  | .sign s =>
    if s = "=" then
      let hint := " here. Maybe you meant '==' instead of '='?"
      match e with
      | .call .. => faultSince place ("cannot assign to function call" ++ hint)
      | .whole _ => faultSince place ("cannot assign to literal" ++ hint)
      | .text _ => faultSince place ("cannot assign to literal" ++ hint)
      | .binary .. => faultSince place ("cannot assign to expression" ++ hint)
      | .truth b => faultSince place (if b then "cannot assign to True" else "cannot assign to False")
      | .nothing => faultSince place "cannot assign to None"
      | .compare .. => faultSince place "cannot assign to comparison"
      | _ => pure ()
      let values ← assigned fuel fuel
      let all := e :: values
      return .assign all.dropLast (all.getLastD .nothing)
    match augmented.find? fun o => o.1 = s with
    | some (_, op) => do
      skip
      return .augment e op (← expressions fuel)
    | none => return .expr e
  | _ => do
    match e, start with
    | .name n, some t =>
      if (n = "print" || n = "exec") && (← startsExpression) then
        throw ⟨"SyntaxError", "Missing parentheses in call to '" ++ n ++ "'. Did you mean " ++ n ++ "(...)?",
          t.line, t.column, (((← get).takeWhile fun u => match u.lexeme with
            | .newline => false
            | .sign ";" => false
            | _ => true).getLast?.map fun u => u.column + u.width - t.column).getD 5⟩
    | _, _ => pure ()
    return .expr e

/-- A statement on one line. -/
def simple (fuel : Nat) : Read Kind := do
  let optional : Read (Option Expr) := do
    if ← startsExpression then return some (← expressions fuel)
    return none
  match ← peek with
  | .name "pass" => do
    skip
    return .pass
  | .name "break" => do
    skip
    return .leave
  | .name "continue" => do
    skip
    return .again
  | .name "return" => do
    skip
    return .give (← optional)
  | .name "raise" => do
    skip
    let e ← optional
    if ← acceptWord "from" then return .raise e (some (← expression fuel))
    return .raise e none
  | .name "del" => do
    skip
    match ← expressions fuel with
    | .tuple es => return .delete es
    | e => return .delete [e]
  | .name "global" => do
    skip
    return .shared (← separated identifier fuel)
  | .name "nonlocal" => do
    skip
    return .shared (← separated identifier fuel)
  | .name "assert" => do
    skip
    let e ← expression fuel
    if ← accept "," then return .check e (some (← expression fuel))
    return .check e none
  | .name "import" => do
    skip
    let item : Read Import := do
      let path ← dotted fuel
      if ← acceptWord "as" then return ⟨path, some (← identifier)⟩
      return ⟨path, none⟩
    return .load (← separated item fuel)
  | .name "from" => do
    skip
    let path ← dotted fuel
    expectWord "import"
    if ← accept "(" then
      let names ← separated renamed fuel
      expect ")"
      return .loadFrom path names
    return .loadFrom path (← separated renamed fuel)
  | _ => assignment fuel

/-- Statements on one line, with points of division between them. -/
def line (fuel : Nat) : Nat → Read (List Statement)
  | 0 => wrong
  | n + 1 => do
    let place := ((← get).head?.map Token.line).getD 1
    let k ← simple fuel
    if ← accept ";" then
      match ← peek with
      | .newline => do
        skip
        return [.mk place k]
      | _ => return .mk place k :: (← line fuel n)
    match ← peek with
    | .newline => do
      skip
      return [.mk place k]
    | .finish => return [.mk place k]
    | _ => wrong

mutual

/-- A block behind a colon. -/
def block : Nat → String → Nat → Read (List Statement)
  | 0, _, _ => wrong
  | fuel + 1, what, start => do
    match ← peek with
    | .sign ":" => skip
    | .newline => fault "expected ':'"
    | _ => if ["'if' statement", "'elif' statement", "'while' statement", "'for' statement"].contains what then wrong else expect ":"
    match ← peek with
    | .newline => do
      skip
      match ← peek with
      | .indent => do
        skip
        statements fuel
      | _ => faultOf "IndentationError" ("expected an indented block after " ++ what ++ " on line " ++ toString start)
    | _ => line fuel fuel

/-- The statements of a block. -/
def statements : Nat → Read (List Statement)
  | 0 => wrong
  | fuel + 1 => do
    match ← peek with
    | .dedent => do
      skip
      return []
    | .finish => return []
    | .indent => faultOf "IndentationError" "unexpected indent"
    | .newline => do
      skip
      statements fuel
    | _ => do
      let first ← statement fuel
      return first ++ (← statements fuel)

/-- A statement, or all those of a line. -/
def statement : Nat → Read (List Statement)
  | 0 => wrong
  | fuel + 1 => do
    let place := ((← get).head?.map Token.line).getD 1
    let one (k : Kind) : List Statement := [.mk place k]
    match ← peek with
    | .name "if" => do
      skip
      return one (← condition fuel "'if' statement" place)
    | .name "while" => do
      skip
      let c ← expression fuel
      let body ← block fuel "'while' statement" place
      return one (.loop c body (← otherwise fuel))
    | .name "for" => do
      skip
      let t ← targets fuel
      expectWord "in"
      let e ← expressions fuel
      let body ← block fuel "'for' statement" place
      return one (.each t e body (← otherwise fuel))
    | .name "def" => do
      skip
      let n ← identifier
      expect "("
      let ps ← parameters fuel ")"
      if ← accept "->" then
        let _ ← expression fuel
      return one (.function n ps (← block fuel "function definition" place))
    | .name "class" => do
      skip
      let n ← identifier
      let bases ← if ← accept "(" then pure ((← arguments fuel).map fun (.mk _ _ e) => e) else pure []
      return one (.derive n bases (← block fuel "class definition" place))
    | .name "with" => do
      skip
      let items ← separated (do
        let e ← expression fuel
        if ← acceptWord "as" then return (e, some (← operand fuel 4))
        return (e, none)) fuel
      return one (.using items (← block fuel "'with' statement" place))
    | .name "try" => do
      skip
      let body ← block fuel "'try' statement" place
      let hs ← handlers fuel
      let good ← otherwise fuel
      let last ← if ← acceptWord "finally" then block fuel "'finally' statement" place else pure []
      if hs.isEmpty && last.isEmpty then fault "expected 'except' or 'finally' block"
      return one (.attempt body hs good last)
    | .sign "@" => do
      skip
      let _ ← expression fuel
      match ← peek with
      | .newline => do
        skip
        statement fuel
      | _ => wrong
    | _ => line fuel fuel

/-- What is done if a condition holds, and if not. -/
def condition : Nat → String → Nat → Read Kind
  | 0, _, _ => wrong
  | fuel + 1, what, start => do
    let c ← expression fuel
    let yes ← block fuel what start
    let place := ((← get).head?.map Token.line).getD 1
    if ← acceptWord "elif" then
      let k ← condition fuel "'elif' statement" place
      return .choose c yes [.mk place k]
    return .choose c yes (← otherwise fuel)

/-- A block for all other cases. -/
def otherwise : Nat → Read (List Statement)
  | 0 => wrong
  | fuel + 1 => do
    let place := ((← get).head?.map Token.line).getD 1
    if ← acceptWord "else" then block fuel "'else' statement" place else return []

/-- What is done about exceptions. -/
def handlers : Nat → Read (List Handler)
  | 0 => wrong
  | fuel + 1 => do
    let place := ((← get).head?.map Token.line).getD 1
    if ← acceptWord "except" then
      let kind ← if ← isSign ":" then pure none else pure (some (← expression fuel))
      let name ← if ← acceptWord "as" then pure (some (← identifier)) else pure none
      let body ← block fuel "'except' statement" place
      return .mk kind name body :: (← handlers fuel)
    return []

/-- All statements of a program. -/
def program : Nat → Read (List Statement)
  | 0 => wrong
  | fuel + 1 => do
    match ← peek with
    | .finish => return []
    | .newline => do
      skip
      program fuel
    | .indent => faultOf "IndentationError" "unexpected indent"
    | _ => do
      let first ← statement fuel
      return first ++ (← program fuel)

end

end Read

/-- The program that a text is. -/
def programOf (s : Text) : Except Fault (List Statement) := do
  let ts ← tokens s
  let (p, _) ← (Read.program (20 * ts.length + 100)).run ts
  return p

end StaleBuild.Utility.Snippet
