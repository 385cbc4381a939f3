import StaleBuild.Decimal.Double
import StaleBuild.Host.Text

/-!
The words of a program that goes through records. A slash starts a pattern where an operand can stand, and
divides behind one.
-/

namespace StaleBuild.Utility.Record

open Host (Str str)

/-- A word of a program. -/
inductive Token where
  | number (x : Float)
  | text (s : Str)
  | regex (s : Str)
  | name (s : String)
  /-- A name with an opening bracket right behind it. -/
  | called (s : String)
  | builtin (s : String)
  | keyword (s : String)
  | sign (s : String)
  | newline
  | finish
deriving BEq

/-- A word with the line that it stands on. -/
structure Lexeme where
  token : Token
  line : Nat

/-- Why a program has no words. -/
structure Unreadable where
  line : Nat
  words : Str

def keywords : List String :=
  ["BEGIN", "END", "if", "else", "while", "for", "do", "break", "continue", "next", "nextfile", "exit",
    "return", "delete", "in", "getline", "print", "printf", "function", "func"]

def builtins : List String :=
  ["length", "substr", "index", "split", "sub", "gsub", "match", "sprintf", "sin", "cos", "atan2",
    "exp", "log", "sqrt", "int", "rand", "srand", "tolower", "toupper", "system", "close", "fflush",
    "systime", "strftime", "mktime"]

/-- The signs, the longer ones first. -/
def signs : List String :=
  ["&&", "||", "==", "<=", ">=", "!=", "++", "--", "+=", "-=", "*=", "/=", "%=", "^=", ">>", "!~",
    "\x7b", "\x7d", "(", ")", "[", "]", ";", ",", "+", "-", "*", "/", "%", "^", "!", ">", "<", "|",
    "?", ":", "~", "$", "="]

/-- Whether a slash behind a word divides. -/
def Token.isOperand : Token → Bool
  | .number _ | .text _ | .regex _ | .name _ | .builtin _ => true
  | .sign s => s = ")" || s = "]" || s = "$" || s = "++" || s = "--"
  | _ => false

/-- A text between quotation marks, read up to the second one, and what follows it. -/
def quoted : Str → Str → Option (Str × Str)
  | _, [] => none
  | _, '\n' :: _ => none
  | out, '"' :: rest => some (out.reverse, rest)
  | out, '\\' :: '\n' :: rest => quoted out rest
  | out, '\\' :: a :: b :: c :: rest =>
    let isOctal := Host.isDigitIn 8
    if isOctal a && isOctal b && isOctal c then
      quoted (Char.ofNat (Host.foldDigits 8 [a, b, c] % 256) :: out) rest
    else if isOctal a && isOctal b then quoted (Char.ofNat (Host.foldDigits 8 [a, b]) :: out) (c :: rest)
    else if isOctal a then quoted (Char.ofNat (Host.foldDigits 8 [a]) :: out) (b :: c :: rest)
    else quoted (spelt a out) (b :: c :: rest)
  | out, '\\' :: a :: rest =>
    if Host.isDigitIn 8 a then quoted (Char.ofNat (Host.foldDigits 8 [a]) :: out) rest
    else quoted (spelt a out) rest
  | out, c :: rest => quoted (c :: out) rest
where
  /-- What a letter behind a backslash stands for, in front of what has been read. -/
  spelt (c : Char) (out : Str) : Str :=
    match c with
    | 'n' => '\n' :: out
    | 't' => '\t' :: out
    | 'r' => '\r' :: out
    | 'a' => '\x07' :: out
    | 'b' => '\x08' :: out
    | 'f' => '\x0c' :: out
    | 'v' => '\x0b' :: out
    | '\\' => '\\' :: out
    | '"' => '"' :: out
    | c => c :: '\\' :: out

/-- What a text of escapes stands for. -/
def unescaped (s : Str) : Str :=
  -- quotation marks and line breaks stand for themselves here
  let spelled := Host.joinWith (str "\\042") (Host.splitOn '"' s)
  let lines := Host.joinWith (str "\\012") (Host.splitOn '\n' spelled)
  match quoted [] (lines ++ ['"']) with
  | some (t, _) => t
  | none => s

/-- A pattern between slashes, read up to the second one, and what follows it. -/
def slashed : Bool → Str → Str → Option (Str × Str)
  | _, _, [] => none
  | _, _, '\n' :: _ => none
  | inSet, out, '\\' :: c :: rest =>
    if c = '/' then slashed inSet ('/' :: out) rest else slashed inSet (c :: '\\' :: out) rest
  | inSet, out, '/' :: rest => if inSet then slashed inSet ('/' :: out) rest else some (out.reverse, rest)
  | false, out, '[' :: '^' :: ']' :: rest => slashed true (']' :: '^' :: '[' :: out) rest
  | false, out, '[' :: ']' :: rest => slashed true (']' :: '[' :: out) rest
  | false, out, '[' :: rest => slashed (rest.contains ']') ('[' :: out) rest
  | true, out, ']' :: rest => slashed false (']' :: out) rest
  | inSet, out, c :: rest => slashed inSet (c :: out) rest

/-- The number at the start of a text, and what follows it. -/
def numberAt (s : Str) : Float × Str :=
  let whole := s.takeWhile Char.isDigit
  let rest := s.drop whole.length
  let (fraction, rest) := match rest with
    | '.' :: more =>
      let f := more.takeWhile Char.isDigit
      (f, more.drop f.length)
    | rest => ([], rest)
  let digits := whole ++ fraction
  let (power, rest) : Int × Str := match rest with
    | e :: more =>
      if e = 'e' || e = 'E' then
        let (sign, ds) : Int × Str := match more with
          | '-' :: d => (-1, d)
          | '+' :: d => (1, d)
          | d => (1, d)
        let n := ds.takeWhile Char.isDigit
        if n = [] then (0, rest)
        else (sign * (min (Host.foldDigits 10 n) 100000 : Nat), ds.drop n.length)
      else (0, rest)
    | [] => (0, rest)
  ((Decimal.ofDecimal false (Host.foldDigits 10 digits) digits.length
    (power - fraction.length)).toFloat, rest)

/-- The words of a program; the second argument is the last word, the third the line. -/
def tokens : Nat → Token → Nat → Str → Except Unreadable (List Lexeme)
  | 0, _, line, _ => .ok [⟨.finish, line⟩]
  | _, _, line, [] => .ok [⟨.finish, line⟩]
  | fuel + 1, last, line, c :: rest =>
    let go (t : Token) (rest : Str) : Except Unreadable (List Lexeme) :=
      (tokens fuel t line rest).map (⟨t, line⟩ :: ·)
    if c = ' ' || c = '\t' || c = '\r' then tokens fuel last line rest
    else if c = '\n' then (tokens fuel .newline (line + 1) rest).map (⟨.newline, line⟩ :: ·)
    else if c = '#' then tokens fuel last line (rest.dropWhile (· ≠ '\n'))
    else if c = '\\' && rest.head? = some '\n' then tokens fuel last (line + 1) rest.tail
    else if c = '\\' && (str "\r\n").isPrefixOf rest then tokens fuel last (line + 1) (rest.drop 2)
    else if c = '"' then
      match quoted [] rest with
      | some (s, rest) => go (.text s) rest
      | none =>
        .error ⟨line, str "runaway string constant \"" ++ (rest.takeWhile (· ≠ '\n')).take 10 ++ str " ..."⟩
    else if c.isDigit || (c = '.' && (rest.head?.any Char.isDigit)) then
      let (x, rest) := numberAt (c :: rest)
      go (.number x) rest
    else if Host.isNameStart c then
      let name := (c :: rest).takeWhile Host.isNamePart
      let rest := (c :: rest).drop name.length
      let s := String.ofList name
      if keywords.contains s then go (.keyword (if s = "func" then "function" else s)) rest
      else if builtins.contains s then go (.builtin s) rest
      else if rest.head? = some '(' then go (.called s) rest
      else go (.name s) rest
    else if c = '/' && !last.isOperand then
      match slashed false [] rest with
      | some (s, rest) => go (.regex s) rest
      | none =>
        .error ⟨line, str "runaway regular expression /" ++ (rest.takeWhile (· ≠ '\n')).take 10 ++ str " ..."⟩
    else
      match signs.find? fun s => s.toList.isPrefixOf (c :: rest) with
      | some s => go (.sign s) ((c :: rest).drop s.length)
      | none => .error ⟨0, Host.decimal (line : Nat) ++ str ": unexpected character '" ++ [c, '\'']⟩

end StaleBuild.Utility.Record
