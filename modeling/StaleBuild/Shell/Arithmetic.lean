import StaleBuild.Shell.State

/-!
Arithmetic of scripts on numbers of 64 bits. An expression is read into a tree of type `Expr` and
then worked out; the operands that do not matter for the result are left alone. The extended dialect
has more operators, and there the text of a variable is an expression itself.
-/

namespace StaleBuild.Shell

open Host (Str str)

/-- An expression. -/
inductive Expr where
  | number (n : Int)
  | parameter (name : Str) (index : Option Str)
  | unary (op : Str) (e : Expr)
  /-- The last field is the text from the second operand on, for messages. -/
  | binary (op : Str) (a b : Expr) (behind : Str)
  | cond (test yes no : Expr)
  /-- An assignment, with the operator in front of the equals sign. -/
  | assign (name : Str) (index : Option Str) (op : Str) (e : Expr)
  /-- A change by one, before or after the value is taken. -/
  | step (name : Str) (index : Option Str) (change : Int) (first : Bool)
deriving Inhabited

namespace Arithmetic

/-- A number in the range of 64 bits. -/
def wrap (n : Int) : Int := Int.bmod n (2 ^ 64)

/-- The greatest number. -/
def greatest : Int := 2 ^ 63 - 1

/-! ## Tokens -/

/-- A token. -/
inductive Tok where
  | number (n : Int)
  | name (s : Str) (index : Option Str)
  | op (s : Str)
  | bad
  /-- Digits that do not belong to the base of their number. -/
  | badDigits
deriving DecidableEq

/-- A token with the text from it on. -/
structure Placed where
  tok : Tok
  behind : Str

/-- The operators, longer ones first. -/
def operators (d : Dialect) : List String :=
  let shared := ["<<=", ">>=", "<<", ">>", "<=", ">=", "==", "!=", "&&", "||", "+=", "-=", "*=", "/=",
    "%=", "&=", "|=", "^=", "+", "-", "*", "/", "%", "<", ">", "=", "!", "~", "&", "|", "^", "?", ":",
    "(", ")"]
  match d with
  | .basic => shared
  | .extended => ["++", "--", "**"] ++ shared ++ [","]

/-- The number at the start of a text, and what follows it. -/
def number (d : Dialect) (s : Str) : Tok × Str :=
  let inBase (base : Nat) (digits : Str) : Tok × Str :=
    let taken := digits.takeWhile (Host.isDigitIn base)
    (.number (Host.foldDigits base taken), digits.drop taken.length)
  match d, s with
  | .basic, '0' :: 'x' :: rest =>
    if (rest.head?.map (Host.isDigitIn 16)).getD false then inBase 16 rest else (.number 0, 'x' :: rest)
  | .basic, '0' :: 'X' :: rest =>
    if (rest.head?.map (Host.isDigitIn 16)).getD false then inBase 16 rest else (.number 0, 'X' :: rest)
  | .basic, '0' :: rest => inBase 8 ('0' :: rest)
  | .basic, s =>
    let digits := s.takeWhile Char.isDigit
    (.number (min (Host.foldDigits 10 digits) greatest), s.drop digits.length)
  | .extended, s =>
    let word := s.takeWhile fun c => Host.isNamePart c || c = '#' || c = '@'
    let rest := s.drop word.length
    let all (base : Nat) (digits : Str) : Tok × Str :=
      if digits.all (Host.isDigitIn base) then (.number (wrap (Host.foldDigits base digits)), rest)
      else (.badDigits, s)
    match Host.cut '#' word with
    | (base, some digits) => all ((Host.natural? base).getD 0) digits
    | (_, none) =>
      match word with
      | '0' :: 'x' :: digits => all 16 digits
      | '0' :: 'X' :: digits => all 16 digits
      | '0' :: digits => all 8 digits
      | digits => all 10 digits

/-- The text in brackets at the start of a text, and what follows it. -/
def bracketed : Nat → Nat → Str → Str → Option (Str × Str)
  | 0, _, _, _ => none
  | _ + 1, _, _, [] => none
  | fuel + 1, depth, taken, c :: rest =>
    if c = ']' && depth = 0 then some (taken.reverse, rest)
    else bracketed fuel (if c = '[' then depth + 1 else if c = ']' then depth - 1 else depth)
      (c :: taken) rest

/-- The tokens of an expression. -/
def tokens (d : Dialect) : Nat → Str → List Placed
  | 0, _ => []
  | _, [] => []
  | fuel + 1, c :: rest =>
    let s := c :: rest
    if Host.isSpace c then tokens d fuel rest
    else if c.isDigit then
      let (tok, after) := number d s
      ⟨tok, s⟩ :: if tok = .badDigits then [] else tokens d fuel after
    else if Host.isNameStart c then
      let name := s.takeWhile Host.isNamePart
      let after := s.drop name.length
      match d, after with
      | .extended, '[' :: more =>
        match bracketed (more.length + 1) 0 [] more with
        | some (index, after) => ⟨.name name (some index), s⟩ :: tokens d fuel after
        | none => ⟨.name name none, s⟩ :: tokens d fuel after
      | _, _ => ⟨.name name none, s⟩ :: tokens d fuel after
    else
      match (operators d).find? fun o => o.toList.isPrefixOf s with
      | some o => ⟨.op o.toList, s⟩ :: tokens d fuel (s.drop o.length)
      | none => [⟨.bad, s⟩]

/-! ## Reading -/

/-- Why an expression cannot be read. -/
inductive Fault where
  | noPrimary
  | noClosing
  | noColon
  | leftOver
  | badDigits
  | notAssignable
deriving DecidableEq

/-- A fault with the text from the last token on. -/
abbrev Reader := StateT (List Placed × Str) (Except (Fault × Str))

namespace Reader

/-- The next token, which stays. -/
def peek : Reader (Option Tok) := return (← get).1.head?.map Placed.tok

/-- The text from the next token on. -/
def rest : Reader Str := return (((← get).1.head?).map Placed.behind).getD []

/-- Leave out the next token. -/
def skip : Reader Unit := modify fun (ts, last) =>
  match ts with
  | t :: more => (more, t.behind)
  | [] => ([], last)

/-- Complain. -/
def fail {α : Type} (f : Fault) : Reader α := do
  let (ts, last) ← get
  throw (f, match ts with
    | t :: _ => t.behind
    | [] => last)

/-- Take the next token if it is this operator. -/
def take? (s : String) : Reader Bool := do
  if (← peek) = some (.op s.toList) then
    skip
    return true
  else return false

end Reader

/-- The binary operators by how tightly they bind, the loosest first. -/
def levels : List (List String) :=
  [["|"], ["^"], ["&"], ["==", "!="], ["<", "<=", ">", ">="], ["<<", ">>"], ["+", "-"],
    ["*", "/", "%"]]

/-- The operators that may stand in front of an equals sign. -/
def assigning : List String := ["", "+", "-", "*", "/", "%", "<<", ">>", "&", "^", "|"]

/-- An operand, given a reader for whole expressions. -/
def primary (whole : Reader Expr) : Nat → Reader Expr
  | 0 => Reader.fail .noPrimary
  | fuel + 1 => do
    match ← Reader.peek with
    | some (.number n) => do
      Reader.skip
      return .number n
    | some (.name s index) => do
      Reader.skip
      if ← Reader.take? "++" then return .step s index 1 false
      else if ← Reader.take? "--" then return .step s index (-1) false
      else return .parameter s index
    | some .badDigits => Reader.fail .badDigits
    | some (.op o) =>
      match Host.word o with
      | "(" => do
        Reader.skip
        let e ← whole
        if ← Reader.take? ")" then return e else Reader.fail .noClosing
      | "+" => do
        Reader.skip
        primary whole fuel
      | "-" => do
        Reader.skip
        return .unary o (← primary whole fuel)
      | "!" => do
        Reader.skip
        return .unary o (← primary whole fuel)
      | "~" => do
        Reader.skip
        return .unary o (← primary whole fuel)
      | "++" => do
        Reader.skip
        match ← Reader.peek with
        | some (.name s index) => do
          Reader.skip
          return .step s index 1 true
        | _ => Reader.fail .noPrimary
      | "--" => do
        Reader.skip
        match ← Reader.peek with
        | some (.name s index) => do
          Reader.skip
          return .step s index (-1) true
        | _ => Reader.fail .noPrimary
      | _ => Reader.fail .noPrimary
    | _ => Reader.fail .noPrimary

/-- A power, which groups to the right. -/
def power (operand : Reader Expr) : Nat → Reader Expr
  | 0 => Reader.fail .noPrimary
  | fuel + 1 => do
    let a ← operand
    if ← Reader.take? "**" then
      let behind ← Reader.rest
      return .binary ['*', '*'] a (← power operand fuel) behind
    else return a

/-- Operands with operators of one level between them. -/
def leftWithin (ops : List String) (operand : Reader Expr) : Nat → Expr → Reader Expr
  | 0, a => return a
  | fuel + 1, a => do
    match ← Reader.peek with
    | some (.op o) =>
      if ops.any fun p => p.toList = o then
        Reader.skip
        let behind ← Reader.rest
        let b ← operand
        leftWithin ops operand fuel (.binary o a b behind)
      else return a
    | _ => return a

/-- An expression of binary operators. -/
def binary (operand : Reader Expr) : List (List String) → Reader Expr
  | [] => operand
  | ops :: tighter => do
    let n := (← get).1.length + 1
    leftWithin ops (binary operand tighter) n (← binary operand tighter)

/-- A condition, given readers for its operands and for whole expressions. -/
def conditional (operand whole : Reader Expr) : Nat → Reader Expr
  | 0 => Reader.fail .noPrimary
  | fuel + 1 => do
    let e ← operand
    if ← Reader.take? "?" then
      let yes ← whole
      if ← Reader.take? ":" then return .cond e yes (← conditional operand whole fuel)
      else Reader.fail .noColon
    else return e

/-- The operator in front of an equals sign, if the next token is one. -/
def assigner? : Reader (Option Str) := do
  match ← Reader.peek with
  | some (.op o) =>
    return ((assigning.find? fun a => a.toList ++ ['='] = o).map String.toList)
  | _ => return none

/-- An expression with brackets at most so deep. -/
def assignment : Nat → Reader Expr
  | 0 => Reader.fail .noPrimary
  | fuel + 1 => do
    let n := (← get).1.length + 1
    let whole : Reader Expr := do
      let e ← assignment fuel
      return e
    let before ← get
    match ← Reader.peek with
    | some (.name s index) => do
      Reader.skip
      match ← assigner? with
      | some op => do
        Reader.skip
        return .assign s index op (← assignment fuel)
      | none => do
        set before
        conditional (binary (power (primary whole n) n) ([["||"], ["&&"]] ++ levels)) whole n
    | _ => conditional (binary (power (primary whole n) n) ([["||"], ["&&"]] ++ levels)) whole n

/-- Expressions behind each other, of which the last one counts. -/
def sequence (n : Nat) : Nat → Reader Expr
  | 0 => Reader.fail .noPrimary
  | fuel + 1 => do
    let e ← assignment n
    if ← Reader.take? "," then
      let behind ← Reader.rest
      return .binary [','] e (← sequence n fuel) behind
    else return e

/-- Read an expression; one without tokens is zero. -/
def read (d : Dialect) (s : Str) : Except (Fault × Str) Expr :=
  let ts := tokens d (s.length + 1) s
  if ts.isEmpty && d = .extended then .ok (.number 0)
  else
    let reading : Reader Expr := do
      let e ← sequence (ts.length + 1) (ts.length + 1)
      if (← Reader.peek).isSome then
        if (← Reader.peek) = some .badDigits then Reader.fail .badDigits
        else if (← assigner?).isSome then Reader.fail .notAssignable
        else Reader.fail .leftOver
      else return e
    (reading (ts, s)).map Prod.fst

/-! ## Working out -/

/-- The number that a flag stands for. -/
def ofBool (b : Bool) : Int := if b then 1 else 0

/-- The natural number of the same 64 bits. -/
def bits (n : Int) : Nat := (n % 2 ^ 64).toNat

/-- The value of a binary operator; none for a division by zero. -/
def apply (op : String) (a b : Int) : Option Int :=
  let shift := bits b % 64
  match op with
  | "+" => some (wrap (a + b))
  | "-" => some (wrap (a - b))
  | "*" => some (wrap (a * b))
  | "/" => if b = 0 then none else some (wrap (a.tdiv b))
  | "%" => if b = 0 then none else some (wrap (a.tmod b))
  | "<<" => some (wrap (a * 2 ^ shift))
  | ">>" => some (a.fdiv (2 ^ shift))
  | "&" => some (wrap (bits a &&& bits b : Nat))
  | "|" => some (wrap (bits a ||| bits b : Nat))
  | "^" => some (wrap (bits a ^^^ bits b : Nat))
  | "==" => some (ofBool (a = b))
  | "!=" => some (ofBool (a ≠ b))
  | "<" => some (ofBool (a < b))
  | "<=" => some (ofBool (a ≤ b))
  | ">" => some (ofBool (a > b))
  | ">=" => some (ofBool (a ≥ b))
  | "**" => some (wrap (a ^ b.toNat))
  | "," => some b
  | _ => none

/-- Complain about an expression in the basic dialect. -/
def refuseBasic {α : Type} (source : Str) (message : String) : Sh α :=
  Sh.refuse 2 (str ("arithmetic expression: " ++ message ++ ": \"") ++ source ++ ['"'])

/-- Complain about an expression in the extended dialect. -/
def refuseExtended {α : Type} (source behind : Str) (message : String) : Sh α :=
  Sh.refuse 1 (source.dropWhile Host.isSpace ++ str (": " ++ message ++ " (error token is \"") ++
    behind ++ str "\")")

/-- Complain about a fault. -/
def refuse {α : Type} (source : Str) (f : Fault) (behind : Str) : Sh α := do
  if ← Sh.isExtended then
    refuseExtended source behind (match f with
      | .noPrimary => "syntax error: operand expected"
      | .noClosing => "missing `)'"
      | .noColon => "`:' expected for conditional expression"
      | .leftOver => "syntax error in expression"
      | .badDigits => "value too great for base"
      | .notAssignable => "attempted assignment to non-variable")
  else refuseBasic source (match f with
      | .noPrimary => "expecting primary"
      | .noClosing => "expecting ')'"
      | .noColon => "expecting ':'"
      | _ => "expecting EOF")

/-- The number that a text is in the basic dialect. -/
def illegal? (s : Str) : Option Int :=
  let t := Host.trimBy Host.isSpace s
  let (sign, digits) := match t with
    | '-' :: rest => ((-1 : Int), rest)
    | '+' :: rest => (1, rest)
    | rest => (1, rest)
  if t = [] then some 0
  else match number .basic digits with
    | (.number n, []) => if digits = [] then none else some (sign * n)
    | _ => none

/-- The text of a variable or of an item of an array. -/
def lookup (name : Str) (key : Option Str) : Sh (Option Str) := do
  let s ← get
  match s.binding name, key with
  | some v, some k =>
    return match v.value with
      | some (.items l) =>
        (l.find? fun e => some e.1 = Host.natural? k).map Prod.snd
      | some (.table l) => (l.find? fun e => e.1 = k).map Prod.snd
      | some (.text t) => if k = ['0'] then some t else none
      | none => none
  | _, _ => do
    match s.text? name with
    | some t => return some t
    | none =>
      if s.options.demandsValues then
        if s.dialect = .basic then Sh.refuse 2 (name ++ str ": parameter not set")
        else Sh.refuse 1 (name ++ str ": unbound variable")
      else return none

/-- Store a text in a variable or in an item of an array. -/
def store (name : Str) (key : Option Str) (text : Str) : Sh Unit := do
  match key with
  | none => Sh.assign name text
  | some k =>
    match ((← get).binding name).bind Variable.value with
    | some (.table l) => Sh.setValue name (.table (Value.setEntry k text l))
    | some (.items l) => Sh.setValue name (.items (Value.setItem ((Host.natural? k).getD 0) text l))
    | some (.text t) =>
      Sh.setValue name (.items (Value.setItem ((Host.natural? k).getD 0) text [(0, t)]))
    | none => Sh.setValue name (.items [((Host.natural? k).getD 0, text)])

/-- Whether a variable holds items by name. -/
def isTable (name : Str) : Sh Bool := do
  return match ((← get).binding name).bind Variable.value with
    | some (.table _) => true
    | _ => false

/-- The key of an item, given a way to work out a text. -/
def keyOf (inner : Str → Sh Int) (name : Str) (index : Option Str) : Sh (Option Str) := do
  match index with
  | none => return none
  | some i => if ← isTable name then return some i else return some (Host.decimal (← inner i))

/-- The number in a variable or an item, given a way to work out a text. -/
def valueOf (inner : Str → Sh Int) (name : Str) (key : Option Str) : Sh Int := do
  match ← lookup name key with
  | none => return 0
  | some t =>
    if ← Sh.isExtended then inner t
    else match illegal? t with
      | some n => return wrap n
      | none => Sh.refuse 2 (str "Illegal number: " ++ t)

/-- The result of an operator, which a division by zero has not. -/
def divided (source behind : Str) (result : Option Int) : Sh Int := do
  match result with
  | some n => return n
  | none =>
    if ← Sh.isExtended then refuseExtended source behind "division by 0"
    else refuseBasic source "division by zero"

/-- Work out an expression of a source text, given a way to work out the texts of variables. -/
def eval (inner : Str → Sh Int) (source : Str) : Expr → Sh Int
  | .number n => return n
  | .parameter name index => do valueOf inner name (← keyOf inner name index)
  | .unary op e => do
    let n ← eval inner source e
    return match Host.word op with
      | "-" => wrap (-n)
      | "!" => ofBool (n = 0)
      | _ => -n - 1
  | .binary op a b behind => do
    let m ← eval inner source a
    if op = ['&', '&'] then
      if m = 0 then return 0 else return ofBool ((← eval inner source b) ≠ 0)
    else if op = ['|', '|'] then
      if m ≠ 0 then return 1 else return ofBool ((← eval inner source b) ≠ 0)
    else divided source behind (apply (Host.word op) m (← eval inner source b))
  | .cond test yes no => do
    if (← eval inner source test) ≠ 0 then eval inner source yes else eval inner source no
  | .assign name index op e => do
    let n ← eval inner source e
    let key ← keyOf inner name index
    let old ← if op = [] then pure 0 else valueOf inner name key
    let new ← if op = [] then pure n else divided source [] (apply (Host.word op) old n)
    store name key (Host.decimal new)
    return new
  | .step name index change first => do
    let key ← keyOf inner name index
    let old ← valueOf inner name key
    let new := wrap (old + change)
    store name key (Host.decimal new)
    return if first then new else old

/-- Work out a text, with the texts of variables at most so deep. -/
def workOutWithin : Nat → Str → Sh Int
  | 0, s => refuseExtended s s "expression recursion level exceeded"
  | depth + 1, s => do
    match read (← get).dialect s with
    | .error (f, behind) => refuse s f behind
    | .ok e => eval (workOutWithin depth) s e

/-- Work out a text. -/
def workOut (s : Str) : Sh Int := workOutWithin 64 s

end Arithmetic

end StaleBuild.Shell
