import StaleBuild.Decimal.Double
import StaleBuild.Host.Text
import StaleBuild.Utility.Snippet.Syntax

/-!
The words of a program: names, numbers, texts and signs, with the ends of lines and the changes of
indentation where they mean something. Inside brackets they do not.
-/

namespace StaleBuild.Utility.Snippet

/-- A word of a program. -/
inductive Lexeme where
  | newline
  | indent
  | dedent
  | name (s : String)
  | whole (n : Int)
  | real (x : Float)
  | text (s : Text)
  | bytes (s : Text)
  /-- A text with values in it, as it is written. -/
  | joined (isRaw : Bool) (s : Text)
  | sign (s : String)
  | finish

/-- A word with its place. -/
structure Token where
  lexeme : Lexeme
  line : Nat
  column : Nat
  width : Nat

/-! ## Texts -/

/-- The value of digits in a base. -/
def number (base : Nat) (digits : Text) : Nat := Host.foldDigits base digits

/-- The text that a written text stands for, where a backslash starts a sign of its own. -/
def unescaped (isBytes : Bool) : Nat → Text → Text
  | 0, s => s
  | _, [] => []
  | fuel + 1, '\\' :: c :: rest =>
    let go := unescaped isBytes fuel
    let coded (width : Nat) : Text :=
      let digits := rest.take width
      if digits.length = width && digits.all (Host.isDigitIn 16) then
        Char.ofNat (number 16 digits) :: go (rest.drop width)
      else '\\' :: c :: go rest
    match c with
    | '\n' => go rest
    | '\\' => '\\' :: go rest
    | '\'' => '\'' :: go rest
    | '"' => '"' :: go rest
    | 'a' => '\x07' :: go rest
    | 'b' => '\x08' :: go rest
    | 'f' => '\x0c' :: go rest
    | 'n' => '\n' :: go rest
    | 'r' => '\r' :: go rest
    | 't' => '\t' :: go rest
    | 'v' => '\x0b' :: go rest
    | 'x' => coded 2
    | 'u' => if isBytes then '\\' :: c :: go rest else coded 4
    | 'U' => if isBytes then '\\' :: c :: go rest else coded 8
    | c =>
      let digits := ((c :: rest).take 3).takeWhile (Host.isDigitIn 8)
      if digits.isEmpty then '\\' :: c :: go rest
      else Char.ofNat (number 8 digits) :: go ((c :: rest).drop digits.length)
  | fuel + 1, c :: rest => c :: unescaped isBytes fuel rest

/-- The written text up to its closing mark, and what follows; nothing if the mark is missing. A
backslash keeps the character behind it from closing. -/
def upTo (mark : Text) (isLong : Bool) : Nat → Text → Option (Text × Text)
  | 0, _ => none
  | _, [] => none
  | fuel + 1, c :: rest =>
    if mark.isPrefixOf (c :: rest) then some ([], (c :: rest).drop mark.length)
    else if c = '\n' && !isLong then none
    else match c, rest with
      | '\\', d :: more => (upTo mark isLong fuel more).map fun (s, left) => (c :: d :: s, left)
      | _, _ => (upTo mark isLong fuel rest).map fun (s, left) => (c :: s, left)

/-! ## Numbers -/

/-- The number that a text starts with, and what follows. -/
def numberAt (s : Text) : Lexeme × Text :=
  let based (base : Nat) : Lexeme × Text :=
    let digits := (s.drop 2).takeWhile fun c => Host.isDigitIn base c || c = '_'
    (.whole (number base (digits.filter (· ≠ '_'))), s.drop (2 + digits.length))
  match s with
  | '0' :: 'x' :: _ => based 16
  | '0' :: 'X' :: _ => based 16
  | '0' :: 'o' :: _ => based 8
  | '0' :: 'b' :: _ => based 2
  | _ =>
    let isPart (c : Char) : Bool := c.isDigit || c = '_'
    let front := s.takeWhile isPart
    let rest := s.drop front.length
    let (fraction, hasPoint, rest) := match rest with
      | '.' :: more =>
        let digits := more.takeWhile isPart
        (digits, true, more.drop digits.length)
      | rest => ([], false, rest)
    let (exponent, hasExponent, rest) : Int × Bool × Text := match rest with
      | e :: more =>
        let (negative, digits) := match more with
          | '-' :: d => (true, d)
          | '+' :: d => (false, d)
          | d => (false, d)
        let ds := digits.takeWhile Char.isDigit
        if (e = 'e' || e = 'E') && !ds.isEmpty then
          let n : Int := number 10 ds
          (if negative then -n else n, true, digits.drop ds.length)
        else (0, false, rest)
      | [] => (0, false, [])
    let plain (t : Text) : Text := t.filter (· ≠ '_')
    if hasPoint || hasExponent then
      let digits := plain front ++ plain fraction
      let x := Decimal.ofDecimal false (number 10 digits) digits.length (exponent - (plain fraction).length)
      (.real x.toFloat, rest)
    else (.whole (number 10 (plain front)), rest)

/-! ## Lines -/

/-- The signs, longer ones first. -/
def signs : List String :=
  ["**=", "//=", ">>=", "<<=", "...", "**", "//", ">>", "<<", "<=", ">=", "==", "!=", "->", "+=", "-=", "*=",
    "/=", "%=", "&=", "|=", "^=", ":=", "+", "-", "*", "/", "%", "&", "|", "^", "~", "<", ">", "(", ")",
    "[", "]", "\x7b", "\x7d", ",", ":", ".", ";", "@", "="]

/-- What has been read of a program. -/
structure Scan where
  rest : Text
  line : Nat
  column : Nat
  /-- The brackets that are open, with their places. -/
  brackets : List (Char × Nat × Nat)
  /-- How far blocks are indented, the innermost first. -/
  indents : List Nat
  atStart : Bool
  /-- The words so far, the latest first. -/
  tokens : List Token

namespace Scan

def push (s : Scan) (lexeme : Lexeme) (width : Nat) : Scan :=
  { s with tokens := ⟨lexeme, s.line, s.column, width⟩ :: s.tokens }

/-- Go on behind so many characters of one line. -/
def skip (s : Scan) (n : Nat) : Scan := { s with rest := s.rest.drop n, column := s.column + n }

/-- Go on behind a word that may go over lines. -/
def past (s : Scan) (rest : Text) : Scan :=
  let read := s.rest.take (s.rest.length - rest.length)
  let lines := read.count '\n'
  let last := (read.reverse.takeWhile (· ≠ '\n')).length
  { s with rest, line := s.line + lines, column := if lines = 0 then s.column + last else last }

def fault {α : Type} (s : Scan) (kind words : String) (width : Nat) : Except Fault α :=
  .error ⟨kind, words, s.line, s.column, width⟩

/-- The closing bracket for an opening one. -/
def closing : Char → Char
  | '(' => ')'
  | '[' => ']'
  | _ => Char.ofNat 0x7d

/-- Take a sign. -/
def takeSign (s : Scan) (sign : String) : Except Fault Scan :=
  let go (s : Scan) : Except Fault Scan := .ok ((s.push (.sign sign) sign.length).skip sign.length)
  match sign.toList with
  | [c] =>
    if c = '(' || c = '[' || c = Char.ofNat 0x7b then go { s with brackets := (c, s.line, s.column) :: s.brackets }
    else if c = ')' || c = ']' || c = Char.ofNat 0x7d then
      match s.brackets with
      | [] => s.fault "SyntaxError" ("unmatched '" ++ sign ++ "'") 1
      | (o, line, _) :: more =>
        if closing o = c then go { s with brackets := more }
        else s.fault "SyntaxError" ("closing parenthesis '" ++ sign ++
          "' does not match opening parenthesis '" ++ o.toString ++ "'" ++
          (if line = s.line then "" else " on line " ++ toString line)) 1
    else go s
  | _ => go s

/-- The text that starts here, if one does: the letters before it, its mark and what is behind. -/
def textAt? (rest : Text) : Option (Text × Text × Text) :=
  let letters := rest.takeWhile fun c => "rRbBfFuU".toList.contains c
  let behind := rest.drop letters.length
  if 2 < letters.length then none
  else match behind with
    | q :: a :: b :: more =>
      if q = '"' || q = '\'' then
        if a = q && b = q then some (letters, [q, q, q], more) else some (letters, [q], a :: b :: more)
      else none
    | q :: more => if q = '"' || q = '\'' then some (letters, [q], more) else none
    | [] => none

/-- Take a text. -/
def takeText (s : Scan) (letters mark behind : Text) : Except Fault Scan :=
  let has (c : Char) : Bool := letters.any fun l => l.toLower = c
  match upTo mark (mark.length = 3) (behind.length + 1) behind with
  | none =>
    if mark.length = 3 then
      let lines := behind.count '\n'
      s.fault "SyntaxError" ("unterminated triple-quoted string literal (detected at line " ++
        toString (s.line + lines) ++ ")") 1
    else s.fault "SyntaxError" ("unterminated string literal (detected at line " ++ toString s.line ++ ")") 1
  | some (body, rest) =>
    let value := if has 'r' then body else unescaped (has 'b') body.length body
    let lexeme : Lexeme := if has 'f' then .joined (has 'r') body else if has 'b' then .bytes value else .text value
    .ok ((s.push lexeme (letters.length + mark.length * 2 + body.length)).past rest)

/-- Change the indentation to that of a line. -/
def settle (s : Scan) (width : Nat) : Except Fault Scan :=
  match s.indents with
  | [] => .ok s
  | current :: _ =>
    if width = current then .ok s
    else if current < width then .ok { s.push .indent 0 with indents := width :: s.indents }
    else
      let left := s.indents.dropWhile fun i => width < i
      if left.head? = some width then
        .ok { s with
          indents := left,
          tokens := List.replicate (s.indents.length - left.length) ⟨.dedent, s.line, s.column, 0⟩ ++ s.tokens }
      else (s.skip (s.rest.takeWhile (· ≠ '\n')).length).fault "IndentationError"
        "unindent does not match any outer indentation level" 0

/-- End the program. -/
def close (s : Scan) : Except Fault (List Token) :=
  match s.brackets with
  | (c, line, column) :: _ => .error ⟨"SyntaxError", "'" ++ c.toString ++ "' was never closed", line, column, 1⟩
  | [] =>
    let s := if s.atStart then s else s.push .newline 0
    let dedents := List.replicate (s.indents.length - 1) (⟨.dedent, s.line + 1, 0, 0⟩ : Token)
    .ok ((⟨.finish, s.line, s.column, 0⟩ :: dedents ++ s.tokens).reverse)

/-- Read all words. -/
def all : Nat → Scan → Except Fault (List Token)
  | 0, s => s.close
  | fuel + 1, s =>
    match s.rest with
    | [] => s.close
    | c :: rest =>
      if s.atStart then
        let blanks := s.rest.takeWhile fun c => c = ' ' || c = '\t' || c = '\x0c'
        let width := blanks.foldl (fun n c => if c = '\t' then (n / 8 + 1) * 8 else n + 1) 0
        let t := s.skip blanks.length
        match t.rest with
        | '\n' :: more => all fuel { t with rest := more, line := t.line + 1, column := 0 }
        | '\r' :: '\n' :: more => all fuel { t with rest := more, line := t.line + 1, column := 0 }
        | '#' :: _ => all fuel (t.skip (t.rest.takeWhile (· ≠ '\n')).length)
        | [] => t.close
        | _ => do all fuel { ← t.settle width with atStart := false }
      else if c = '\n' then
        let s := if s.brackets.isEmpty then { s.push .newline 1 with atStart := true } else s
        all fuel { s with rest, line := s.line + 1, column := 0 }
      else if c = ' ' || c = '\t' || c = '\r' || c = '\x0c' then all fuel (s.skip 1)
      else if c = '#' then all fuel (s.skip (s.rest.takeWhile (· ≠ '\n')).length)
      else if c = '\\' && rest.head? = some '\n' then
        all fuel { s with rest := rest.tail, line := s.line + 1, column := 0 }
      else match textAt? s.rest with
        | some (letters, mark, behind) => do all fuel (← s.takeText letters mark behind)
        | none =>
          let isWord (c : Char) : Bool := c.isAlphanum || c = '_' || 127 < c.toNat
          if c.isDigit || (c = '.' && (rest.head?.any Char.isDigit)) then
            let (lexeme, more) := numberAt s.rest
            let width := s.rest.length - more.length
            if more.head?.any fun c => c.isAlpha || c = '_' then
              s.fault "SyntaxError" "invalid decimal literal" 1
            else if c = '0' && (s.rest.take width).all Char.isDigit && (s.rest.take width).any (· ≠ '0') then
              s.fault "SyntaxError" ("leading zeros in decimal integer literals are not permitted; " ++
                "use an 0o prefix for octal integers") 1
            else all fuel ((s.push lexeme width).skip width)
          else if isWord c then
            let word := s.rest.takeWhile isWord
            all fuel ((s.push (.name (String.ofList word)) word.length).skip word.length)
          else match signs.find? fun g => g.toList.isPrefixOf s.rest with
            | some g => do all fuel (← s.takeSign g)
            | none => s.fault "SyntaxError" "invalid syntax" 1

end Scan

/-- The words of a program. -/
def tokens (s : Text) : Except Fault (List Token) :=
  Scan.all (2 * s.length + 2) ⟨s, 1, 0, [], [0], true, []⟩

end StaleBuild.Utility.Snippet
