import StaleBuild.Files.Lookup
import StaleBuild.Host.Quote
import StaleBuild.Utility.Format

/-!
Conditions on texts, numbers and files, as the utility `test` reads them from its arguments. What an
operator means is the same for everybody. How arguments are taken apart that are no clear condition,
and what is said about them, depends on who reads them: shells of the basic dialect look ahead from
left to right, the others go by the count of arguments first.
-/

namespace StaleBuild.Utility

open Host (Str str)

namespace Condition

/-- What conditions are about. -/
structure Subject where
  tree : FileTree
  /-- The number of a signal option or the name of a variable that is set. -/
  isSet : Str → Bool
  /-- Whether an option of the shell is on. -/
  isOn : Str → Bool

/-! ## Operators -/

/-- The words for an operand that is no number. -/
def notANumber (voice : Voice) (s : Str) : Str :=
  match voice with
  | .basic => str "Illegal number: " ++ s
  | .extended => s ++ str ": integer expression expected"
  | .program => str "invalid integer " ++ Host.Quote.curly s

/-- An operand that has to be a number. -/
def number (voice : Voice) (s : Str) : Except Str Int :=
  let t := s.dropWhile Host.isSpace
  match Host.integer? (Host.dropEnd Host.isSpace t) with
  | some n =>
    if voice ≠ .program && (n < -2 ^ 63 || 2 ^ 63 ≤ n) then .error (notANumber voice s) else .ok n
  | none => .error (notANumber voice s)

/-- The operators between two operands. -/
def binaryOperators (voice : Voice) : List String :=
  ["=", "!=", "<", ">", "-eq", "-ne", "-ge", "-gt", "-le", "-lt", "-nt", "-ot", "-ef"] ++
    if voice = .basic then [] else ["=="]

/-- Whether a text is an operator between two operands. -/
def isBinary (voice : Voice) (s : Str) : Bool := (binaryOperators voice).any fun o => o.toList = s

/-- The operators in front of an operand. -/
def unaryLetters (voice : Voice) : List Char :=
  match voice with
  | .basic => "rwxefdcbpugkstznhOGLS".toList
  | .extended => "rwxefdcbpugkstznhOGLSNaovR".toList
  | .program => "rwxefdcbpugkstznhOGLSN".toList

/-- Whether a text is an operator in front of an operand. -/
def isUnary (voice : Voice) : Str → Bool
  | ['-', c] => (unaryLetters voice).contains c
  | _ => false

/-- Whether two paths denote one file. -/
def isSame (tree : FileTree) (a b : Path) : Bool :=
  match tree.find a, tree.find b with
  | .ok (l, x), .ok (m, y) => l = m || (x.shared.isSome && x.shared = y.shared)
  | _, _ => false

/-- The value of an operator between two operands. -/
def binary (voice : Voice) (tree : FileTree) (op a b : Str) : Except Str Bool :=
  let numbers (f : Int → Int → Bool) : Except Str Bool := do
    return f (← number voice a) (← number voice b)
  let time? (s : Str) : Option Time := ((tree.stat (Host.pathOf s)).toOption).map Entry.modified
  match Host.word op with
  | "=" => .ok (a = b)
  | "==" => .ok (a = b)
  | "!=" => .ok (a ≠ b)
  | "<" => .ok (decide (a < b))
  | ">" => .ok (decide (b < a))
  | "-eq" => numbers fun x y => x = y
  | "-ne" => numbers fun x y => x ≠ y
  | "-lt" => numbers fun x y => x < y
  | "-le" => numbers fun x y => x ≤ y
  | "-gt" => numbers fun x y => y < x
  | "-ge" => numbers fun x y => y ≤ x
  | "-nt" => .ok (match time? a, time? b with
    | some x, some y => y < x
    | some _, none => voice ≠ .basic
    | none, _ => false)
  | "-ot" => .ok (match time? a, time? b with
    | some x, some y => x < y
    | none, some _ => voice ≠ .basic
    | _, none => false)
  | "-ef" => .ok (isSame tree (Host.pathOf a) (Host.pathOf b))
  | _ => .ok false

/-- How many bytes a regular file holds. -/
def sizeOf (e : Entry) : Nat :=
  match e.node with
  | .file contents => contents.length
  | .directory => 4096
  | _ => 0

/-- The value of an operator in front of an operand. -/
def unary (voice : Voice) (s : Subject) (op a : Str) : Except Str Bool :=
  let tree := s.tree
  let entry : Option Entry := (tree.stat (Host.pathOf a)).toOption
  let holds (p : Entry → Bool) : Except Str Bool := .ok ((entry.map p).getD false)
  let isKind (k : Special → Bool) : Except Str Bool := holds fun e => match e.node with
    | .special x => k x
    | _ => false
  let isDevice : Special → Bool
    | .fifo => false
    | .descriptor _ => false
    | _ => true
  match Host.word op with
  | "-n" => .ok (a ≠ [])
  | "-z" => .ok (a = [])
  | "-e" => .ok entry.isSome
  | "-a" => .ok entry.isSome
  | "-f" => holds fun e => e.node.isFile
  | "-d" => holds fun e => e.node.isDirectory
  | "-r" => .ok entry.isSome
  | "-w" => .ok entry.isSome
  | "-O" => .ok entry.isSome
  | "-G" => .ok entry.isSome
  | "-x" => holds fun e => e.node.isDirectory || e.isExecutable
  | "-s" => holds fun e => 0 < sizeOf e
  | "-c" => isKind isDevice
  | "-p" => isKind (· == .fifo)
  | "-u" => holds fun e => e.mode / 0o4000 % 2 = 1
  | "-g" => holds fun e => e.mode / 0o2000 % 2 = 1
  | "-k" => holds fun e => e.mode / 0o1000 % 2 = 1
  | "-N" => .ok false
  | "-v" => .ok (s.isSet a)
  | "-o" => .ok (s.isOn a)
  | "-t" => (number voice a).map fun _ => false
  | "-L" => .ok (match tree.lookupLink (Host.pathOf a) with
    | .found _ e => e.node.isLink
    | _ => false)
  | "-h" => .ok (match tree.lookupLink (Host.pathOf a) with
    | .found _ e => e.node.isLink
    | _ => false)
  | _ => .ok false

/-! ## Reading from left to right -/

/-- What an argument is taken for. -/
inductive Token where
  | finish
  | operand
  | unary
  | binary
  | both
  | either
  | negation
  | opening
  | closing
deriving DecidableEq

/-- What the first of several arguments is taken for: an operator in front of an operand only if one
follows. -/
def token : List Str → Token
  | [] => .finish
  | s :: rest =>
    let isOperand : Bool := match rest with
      | [] => true
      | [_] => false
      | next :: _ => isBinary .basic next
    if isUnary .basic s then (if isOperand then .operand else .unary)
    else if isBinary .basic s then .binary
    else if s = ['-', 'a'] then .both
    else if s = ['-', 'o'] then .either
    else if s = ['!'] then .negation
    else if s = ['('] then (if rest.isEmpty then .operand else .opening)
    else if s = [')'] then .closing
    else .operand

/-- A value, and the arguments from the last one on that was looked at. -/
abbrev Taken := Except Str (Bool × List Str)

mutual

/-- Conditions of which one has to hold. -/
def anyOf (s : Subject) : Nat → Token → List Str → Taken
  | 0, _, args => .ok (false, args)
  | fuel + 1, t, args =>
    match allOf s fuel t args with
    | .error e => .error e
    | .ok (a, rest) =>
      if token rest.tail = .either then
        let behind := rest.tail.tail
        (anyOf s fuel (token behind) behind).map fun (b, after) => (a || b, after)
      else .ok (a, rest)

/-- Conditions that all have to hold. -/
def allOf (s : Subject) : Nat → Token → List Str → Taken
  | 0, _, args => .ok (false, args)
  | fuel + 1, t, args =>
    match negated s fuel t args with
    | .error e => .error e
    | .ok (a, rest) =>
      if token rest.tail = .both then
        let behind := rest.tail.tail
        (allOf s fuel (token behind) behind).map fun (b, after) => (a && b, after)
      else .ok (a, rest)

/-- A condition, perhaps negated. -/
def negated (s : Subject) : Nat → Token → List Str → Taken
  | 0, _, args => .ok (false, args)
  | fuel + 1, t, args =>
    if t = .negation then
      let next := token args.tail
      let rest := if next = .finish then args else args.tail
      (negated s fuel next rest).map fun (a, after) => (!a, after)
    else single s fuel t args

/-- One condition. -/
def single (s : Subject) : Nat → Token → List Str → Taken
  | 0, _, args => .ok (false, args)
  | fuel + 1, t, args =>
    match t, args with
    | .finish, args => .ok (false, args)
    | .opening, _ :: rest =>
      let next := token rest
      if next = .closing then .ok (false, rest)
      else match anyOf s fuel next rest with
        | .error e => .error e
        | .ok (a, after) =>
          if token after.tail = .closing then .ok (a, after.tail)
          else .error (str "closing paren expected")
    | .unary, op :: rest =>
      match rest with
      | [] => .error (op ++ str ": argument expected")
      | a :: _ => (unary .basic s op a).map fun v => (v, rest)
    | _, a :: op :: rest =>
      if token (op :: rest) = .binary then
        match rest with
        | [] => .error (op ++ str ": argument expected")
        | b :: _ => (binary .basic s.tree op a b).map fun v => (v, rest)
      else .ok (a ≠ [], a :: op :: rest)
    | _, [a] => .ok (a ≠ [], [a])
    | _, [] => .ok (false, [])

end

/-- The value of arguments that are read from left to right. -/
def fromLeft (s : Subject) (args : List Str) : Except Str Bool :=
  let rec go : Nat → Bool → List Str → Except Str Bool
    | 0, _, _ => .ok false
    | fuel + 1, wanted, args =>
      let evaluate (t : Token) (args : List Str) : Except Str Bool :=
        match anyOf s (6 * args.length + 8) t args with
        | .error e => .error e
        | .ok (v, first :: _ :: _) =>
          let _ := v
          .error (if first = [] then str "unexpected operator" else first ++ str ": unexpected operator")
        | .ok (v, _) => .ok (v == wanted)
      match args with
      | [] => .ok (!wanted)
      | [a, op, b] =>
        if isBinary .basic op then evaluate .operand [a, op, b]
        else if a = ['('] && b = [')'] then evaluate (token [op]) [op]
        else if a = ['!'] then go fuel (!wanted) [op, b]
        else evaluate (token args) args
      | [a, b, c, d] =>
        if a = ['('] && d = [')'] then evaluate (token [b, c]) [b, c]
        else if a = ['!'] then go fuel (!wanted) [b, c, d]
        else evaluate (token args) args
      | args => evaluate (token args) args
  go (args.length + 1) true args

/-! ## Reading by the count of arguments -/

/-- A text as messages show it. -/
def shown (voice : Voice) (s : Str) : Str := if voice = .program then Host.Quote.curly s else s

/-- The complaint that an argument is missing. -/
def beyond {α : Type} (voice : Voice) (all : List Str) : Except Str α :=
  .error (if voice = .program then str "missing argument after " ++ shown voice (all.getLastD [])
    else str "argument expected")

/-- The complaint that an argument is no operator in front of another one. -/
def noUnary {α : Type} (voice : Voice) (s : Str) : Except Str α :=
  .error (shown voice s ++ str ": unary operator expected")

/-- The complaint that an argument is no operator between two others. -/
def noBinary {α : Type} (voice : Voice) (s : Str) : Except Str α :=
  .error (shown voice s ++ str ": binary operator expected")

/-- Two arguments. -/
def ofTwo (voice : Voice) (s : Subject) (all : List Str) (a b : Str) : Except Str Bool :=
  if a = ['!'] then .ok (b = [])
  else if voice = .extended then
    if isUnary voice a then unary voice s a b else noUnary voice a
  else match a with
    | ['-', _] => if isUnary voice a then unary voice s a b else noUnary voice a
    | _ => beyond voice all

mutual

/-- Conditions of which one has to hold, and what follows them. -/
def disjunction (voice : Voice) (s : Subject) (all : List Str) : Nat → List Str → Taken
  | 0, args => .ok (false, args)
  | fuel + 1, args =>
    match conjunction voice s all fuel args with
    | .error e => .error e
    | .ok (a, ['-', 'o'] :: rest) =>
      (disjunction voice s all fuel rest).map fun (b, after) => (a || b, after)
    | r => r

/-- Conditions that all have to hold. -/
def conjunction (voice : Voice) (s : Subject) (all : List Str) : Nat → List Str → Taken
  | 0, args => .ok (false, args)
  | fuel + 1, args =>
    match term voice s all fuel args with
    | .error e => .error e
    | .ok (a, ['-', 'a'] :: rest) =>
      (conjunction voice s all fuel rest).map fun (b, after) => (a && b, after)
    | r => r

/-- One condition, and what follows it. -/
def term (voice : Voice) (s : Subject) (all : List Str) : Nat → List Str → Taken
  | 0, args => .ok (false, args)
  | fuel + 1, args =>
    match args with
    | [] => beyond voice all
    | ['!'] :: rest => (term voice s all fuel rest).map fun (a, after) => (!a, after)
    | ['('] :: rest =>
      if rest = [] then beyond voice all
      else
        let inside := rest.takeWhile (· ≠ [')'])
        let result : Taken :=
          if voice = .program && inside.length < 4 && inside.length < rest.length then
            (byCount voice s all fuel inside).map fun v => (v, rest.drop inside.length)
          else disjunction voice s all fuel rest
        match result with
        | .error e => .error e
        | .ok (v, [')'] :: after) => .ok (v, after)
        | .ok (_, []) =>
          .error (if voice = .program then Host.Quote.curly [')'] ++ str " expected"
            else Char.ofNat 96 :: str ")' expected")
        | .ok (_, found :: _) =>
          .error (if voice = .program then
              Host.Quote.curly [')'] ++ str " expected, found " ++ Host.Quote.curly found
            else Char.ofNat 96 :: str ")' expected, found " ++ found)
    | a :: op :: b :: rest =>
      if isBinary voice op then (binary voice s.tree op a b).map fun v => (v, rest)
      else if isUnary voice a then (unary voice s a op).map fun v => (v, b :: rest)
      else if voice = .program && a.length = 2 && a.head? = some '-' then noUnary voice a
      else .ok (a ≠ [], op :: b :: rest)
    | [a, b] =>
      if isUnary voice a then (unary voice s a b).map fun v => (v, [])
      else if voice = .program && a.length = 2 && a.head? = some '-' then noUnary voice a
      else .ok (a ≠ [], [b])
    | [a] =>
      if isUnary voice a then beyond voice all
      else if voice = .program && a.length = 2 && a.head? = some '-' then noUnary voice a
      else .ok (a ≠ [], [])

/-- The value of arguments by their count. -/
def byCount (voice : Voice) (s : Subject) (all : List Str) : Nat → List Str → Except Str Bool
  | 0, _ => .ok false
  | fuel + 1, args =>
    let general : Except Str Bool :=
      match disjunction voice s all fuel args with
      | .error e => .error e
      | .ok (v, []) => .ok v
      | .ok (_, extra :: _) =>
        .error (if voice = .program then str "extra argument " ++ Host.Quote.curly extra
          else str "too many arguments")
    match args with
    | [] => .ok false
    | [a] => .ok (a ≠ [])
    | [a, b] => ofTwo voice s all a b
    | [a, op, b] =>
      if isBinary voice op then binary voice s.tree op a b
      else if op = ['-', 'a'] then .ok (a ≠ [] && b ≠ [])
      else if op = ['-', 'o'] then .ok (a ≠ [] || b ≠ [])
      else if a = ['!'] then (ofTwo voice s all op b).map (!·)
      else if a = ['('] && b = [')'] then .ok (op ≠ [])
      else noBinary voice op
    | [a, b, c, d] =>
      if a = ['!'] then (byCount voice s all fuel [b, c, d]).map (!·)
      else if a = ['('] && d = [')'] then ofTwo voice s all b c
      else general
    | _ => general

end

/-- The value of a condition; the error is a complaint. -/
def evaluate (voice : Voice) (s : Subject) (args : List Str) : Except Str Bool :=
  match voice with
  | .basic => fromLeft s args
  | v => byCount v s args (6 * args.length + 8) args

/-- The complaint about a bracket that is not closed. -/
def unclosed (voice : Voice) : Str :=
  match voice with
  | .basic => str "missing ]"
  | .extended => str "missing " ++ Char.ofNat 96 :: str "]'"
  | .program => str "missing " ++ Host.Quote.curly [']']

/-- The value of a condition for a utility of this name, which may ask for a closing bracket. -/
def forName (voice : Voice) (s : Subject) (name : Str) (args : List Str) : Except Str Bool :=
  if Host.baseName name = ['['] then
    if args.getLast? = some [']'] then evaluate voice s args.dropLast else .error (unclosed voice)
  else evaluate voice s args

end Condition

end StaleBuild.Utility
