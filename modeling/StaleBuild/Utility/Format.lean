import StaleBuild.Decimal.Dyadic
import StaleBuild.Host.Quote
import StaleBuild.Shell.Requote
import StaleBuild.Utility.Escape

/-!
Texts laid out through a format. A format is a list of directives: text, or a conversion that takes
an argument. It is used again until no argument is left. What comes out is a list of events: texts to
write, and complaints about arguments that are no numbers.

Shells of either dialect and the program outside of them agree on what a format means and differ in
their words for what is wrong.
-/

namespace StaleBuild.Utility

open Host (Str str)

/-- Whose words are used. -/
inductive Voice where
  | basic
  | extended
  | program
deriving DecidableEq

namespace Format

/-! ## Layout -/

/-- How a value is laid out. -/
structure Layout where
  flags : Str
  width : Nat
  precision : Option Nat

namespace Layout

/-- A text of at least the width. -/
def pad (l : Layout) (s : Str) : Str :=
  let blanks := Host.run (l.width - s.length) ' '
  if l.flags.contains '-' then s ++ blanks else blanks ++ s

/-- A number with its sign and a mark in front of the digits. -/
def number (l : Layout) (zeros : Bool) (sign mark digits : Str) : Str :=
  if zeros && l.flags.contains '0' && !l.flags.contains '-' then
    let front := sign ++ mark
    front ++ Host.run (l.width - front.length - digits.length) '0' ++ digits
  else l.pad (sign ++ mark ++ digits)

/-- The sign of a number. -/
def sign (l : Layout) (isNegative : Bool) : Str :=
  if isNegative then ['-'] else if l.flags.contains '+' then ['+']
  else if l.flags.contains ' ' then [' '] else []

/-- A whole number with a sign. -/
def signed (l : Layout) (n : Int) : Str :=
  let digits := if n = 0 && l.precision = some 0 then [] else Nat.toDigits 10 n.natAbs
  let digits := Host.run (l.precision.getD 0 - digits.length) '0' ++ digits
  l.number l.precision.isNone (l.sign (n < 0)) [] digits

/-- A whole number without a sign in a base. -/
def unsigned (l : Layout) (conversion : Char) (n : Nat) : Str :=
  let base := if conversion = 'o' then 8 else if conversion = 'u' then 10 else 16
  let digits := if n = 0 && l.precision = some 0 then [] else Nat.toDigits base n
  let digits := Host.run (l.precision.getD 0 - digits.length) '0' ++ digits
  let digits := if conversion = 'o' && l.flags.contains '#' && digits.head? ≠ some '0' then
      '0' :: digits
    else digits
  let mark : Str := if conversion = 'x' && l.flags.contains '#' && n ≠ 0 then ['0', 'x'] else
    if conversion = 'X' && l.flags.contains '#' && n ≠ 0 then ['0', 'X'] else []
  l.number l.precision.isNone [] mark (if conversion = 'X' then Host.toUpper digits else digits)

end Layout

/-! ## Numbers -/

/-- A number with a fraction. -/
inductive Real where
  | finite (isNegative : Bool) (num den : Nat)
  | infinite (isNegative : Bool)
  | undefined

/-- What an argument is wrong in. -/
inductive Wrong where
  | notANumber
  | leftOver
  | range
deriving DecidableEq

/-- The decimal number at the start of a text, as a quotient, and what follows it. -/
def decimalAt (s : Str) : Option ((Nat × Nat) × Str) :=
  let whole := s.takeWhile Char.isDigit
  let rest := s.drop whole.length
  let (fraction, rest) := match rest with
    | '.' :: more =>
      let f := more.takeWhile Char.isDigit
      if whole = [] && f = [] then ([], rest) else (f, more.drop f.length)
    | rest => ([], rest)
  if whole = [] && fraction = [] then none
  else
    let n := Host.foldDigits 10 (whole ++ fraction)
    let shift : Int := -(fraction.length : Int)
    let (shift, rest) := match rest with
      | e :: more =>
        if e = 'e' || e = 'E' then
          let (isNegative, digits) := match more with
            | '-' :: d => (true, d)
            | '+' :: d => (false, d)
            | d => (false, d)
          let ds := digits.takeWhile Char.isDigit
          if ds = [] then (shift, rest)
          else
            let k : Int := min (Host.foldDigits 10 ds) 6000
            (shift + (if isNegative then -k else k), digits.drop ds.length)
        else (shift, rest)
      | [] => (shift, rest)
    some (if 0 ≤ shift then (n * 10 ^ shift.toNat, 1) else (n, 10 ^ (-shift).toNat), rest)

/-- The number at the start of a text, and what follows it. -/
def realAt (s : Str) : Option (Real × Str) :=
  let s := s.dropWhile Host.isSpace
  let (isNegative, t) := match s with
    | '-' :: t => (true, t)
    | '+' :: t => (false, t)
    | t => (false, t)
  let word (w : String) : Bool := w.toList.isPrefixOf (Host.toLower t)
  if word "infinity" then some (.infinite isNegative, t.drop 8)
  else if word "inf" then some (.infinite isNegative, t.drop 3)
  else if word "nan" then some (.undefined, t.drop 3)
  else match t with
    | '0' :: x :: d :: rest =>
      if (x = 'x' || x = 'X') && Host.isDigitIn 16 d then
        let ds := (d :: rest).takeWhile (Host.isDigitIn 16)
        some (.finite isNegative (Host.foldDigits 16 ds) 1, (d :: rest).drop ds.length)
      else (decimalAt t).map fun (q, rest) => (.finite isNegative q.1 q.2, rest)
    | t => (decimalAt t).map fun (q, rest) => (.finite isNegative q.1 q.2, rest)

/-- A number laid out in one of the ways for fractions. Shells of the basic dialect calculate with
fewer digits. -/
def shownReal (voice : Voice) (l : Layout) (conversion : Char) (r : Real) : Str :=
  let lower := conversion.toLower
  let places := l.precision.getD 6
  let point := l.flags.contains '#'
  let cased (s : Str) : Str := if conversion.isUpper then Host.toUpper s else s
  match r with
  | .undefined => { l with flags := l.flags.filter (· ≠ '0') }.number false [] [] (cased (str "nan"))
  | .infinite n =>
    { l with flags := l.flags.filter (· ≠ '0') }.number false (l.sign n) [] (cased (str "inf"))
  | .finite n num den =>
    let x := if voice = .basic then Decimal.Dyadic.double num den else Decimal.Dyadic.extended num den
    if voice = .basic && x.isInfinite 1023 then
      { l with flags := l.flags.filter (· ≠ '0') }.number false (l.sign n) [] (cased (str "inf"))
    else
      let (num, den) := x.ratio
      let digits := match lower with
        | 'f' => Decimal.Dyadic.fixed places point num den
        | 'e' => Decimal.Dyadic.scientific places point 'e' num den
        | _ => Decimal.Dyadic.general places point 'e' num den
      l.number true (l.sign n) [] (cased digits)

/-- The code of the character behind a quotation mark. -/
def quotedCode (voice : Voice) : Str → Nat
  | [] => 0
  | c :: rest =>
    if voice = .basic || c.toNat < 128 then c.toNat
    else (((Utf8.decodeLossyChars (Host.toBytes (c :: rest))).head?).map Char.toNat).getD 0

/-- The whole number that an argument stands for, and what is wrong with it. -/
def integerOf (voice : Voice) (isSigned : Bool) (arg : Str) : Int × Option Wrong :=
  match arg with
  | [] => (0, none)
  | '"' :: rest => (quotedCode voice rest, none)
  | '\'' :: rest => (quotedCode voice rest, none)
  | arg =>
    let s := arg.dropWhile Host.isSpace
    let (isNegative, t) := match s with
      | '-' :: t => (true, t)
      | '+' :: t => (false, t)
      | t => (false, t)
    let (base, digits) : Nat × Str := match t with
      | '0' :: x :: d :: rest =>
        if (x = 'x' || x = 'X') && Host.isDigitIn 16 d then (16, d :: rest) else (8, t)
      | '0' :: _ => (8, t)
      | t => (10, t)
    let ds := digits.takeWhile (Host.isDigitIn base)
    let rest := digits.drop ds.length
    let n : Int := Host.foldDigits base ds
    let n := if isNegative then -n else n
    if ds = [] then (0, some .notANumber)
    else if isSigned then
      if 2 ^ 63 - 1 < n then (2 ^ 63 - 1, some .range)
      else if n < -2 ^ 63 then (-2 ^ 63, some .range)
      else (n, if rest = [] then none else some .leftOver)
    else if 2 ^ 64 - 1 < n.natAbs then (2 ^ 64 - 1, some .range)
    else (n % 2 ^ 64, if rest = [] then none else some .leftOver)

/-- The number that an argument stands for, and what is wrong with it. -/
def realOf (voice : Voice) (arg : Str) : Real × Option Wrong :=
  match arg with
  | [] => (.finite false 0 1, none)
  | '"' :: rest => (.finite false (quotedCode voice rest) 1, none)
  | '\'' :: rest => (.finite false (quotedCode voice rest) 1, none)
  | arg =>
    match realAt arg with
    | none => (.finite false 0 1, some .notANumber)
    | some (r, rest) =>
      let isGreat : Bool := match r with
        | .finite _ num den => voice = .basic && (Decimal.Dyadic.double num den).isInfinite 1023
        | _ => false
      (r, if isGreat then some .range else if rest = [] then none else some .leftOver)

/-! ## Directives -/

/-- A width or a precision. -/
inductive Size where
  | absent
  | given (n : Nat)
  /-- The next argument says it. -/
  | asked

/-- A part of a format. -/
inductive Directive where
  | text (s : Str)
  /-- The end of all output. -/
  | stop
  | convert (flags : Str) (width precision : Size) (conversion : Char)
  /-- No conversion, with its text and its last character. -/
  | bad (raw : Str) (last : Option Char)

/-- The conversions that are known. -/
def conversions (voice : Voice) : List Char :=
  match voice with
  | .basic => "sbcdiouxXfFeEgG".toList
  | _ => "sbcdiouxXfFeEgGq".toList

/-- The escapes that a format may hold. -/
def escapes : Voice → Escapes
  | .basic => ⟨false, true, false, false, [], false⟩
  | .extended => ⟨false, true, true, true, ['"', '\'', '?'], false⟩
  | .program => ⟨false, true, true, true, ['"'], true⟩

/-- The escapes that an argument may hold. -/
def argumentEscapes : Voice → Escapes
  | .basic => .basic
  | .extended => ⟨true, true, true, true, ['"', '\'', '?'], true⟩
  | .program => ⟨true, true, true, true, ['"'], true⟩

/-- The width or the precision at the start of a text, and what follows it. -/
def size : Str → Size × Str
  | '*' :: rest => (.asked, rest)
  | s =>
    let ds := s.takeWhile Char.isDigit
    (if ds = [] then .absent else .given (Host.foldDigits 10 ds), s.drop ds.length)

/-- The directive behind a percent sign, and what follows it. -/
def directive (voice : Voice) (s : Str) : Directive × Str :=
  let flags := s.takeWhile fun c => "-+ 0#'".toList.contains c
  let t := s.drop flags.length
  let (width, t) := size t
  let (precision, t) := match t with
    | '.' :: t => match size t with
      | (.absent, t) => (Size.given 0, t)
      | r => r
    | t => (.absent, t)
  let t := if voice = .basic then t else t.dropWhile fun c => "hlLjtz".toList.contains c
  match t with
  | [] => (.bad ('%' :: s) none, [])
  | c :: rest =>
    if (conversions voice).contains c then (.convert flags width precision c, rest)
    else (.bad ('%' :: s.take (s.length - rest.length)) (some c), rest)

/-- The directives of a format, reversed. -/
def directivesWithin (voice : Voice) : Nat → Str → Str → List Directive → List Directive
  | 0, _, _, done => done
  | fuel + 1, s, text, done =>
    let flushed : List Directive := if text = [] then done else .text text.reverse :: done
    match s with
    | [] => flushed
    | '%' :: '%' :: rest => directivesWithin voice fuel rest ('%' :: text) done
    | '%' :: rest =>
      match directive voice rest with
      | (.bad raw last, _) => .bad raw last :: flushed
      | (d, rest) => directivesWithin voice fuel rest [] (d :: flushed)
    | '\\' :: rest =>
      if voice = .program && rest.head? = some 'c' then .stop :: flushed
      else match (escapes voice).one? rest with
        | some (t, after) => directivesWithin voice fuel after (t.reverse ++ text) done
        | none => directivesWithin voice fuel rest ('\\' :: text) done
    | c :: rest => directivesWithin voice fuel rest (c :: text) done

/-- The directives of a format. -/
def directives (voice : Voice) (s : Str) : List Directive :=
  (directivesWithin voice (s.length + 1) s [] []).reverse

/-! ## Writing -/

/-- What happens in the course of writing. -/
inductive Event where
  | put (s : Str)
  | complain (s : Str)

/-- How far writing has come: the events, the latest first. -/
structure Progress where
  events : List Event
  args : List Str
  status : Nat
  /-- Nothing is written any more. -/
  isOver : Bool

namespace Progress

def put (p : Progress) (s : Str) : Progress := { p with events := .put s :: p.events }

def complain (p : Progress) (s : Str) : Progress :=
  { p with events := .complain s :: p.events, status := 1 }

end Progress

/-- The words for an argument that is no number. -/
def wrongWords (voice : Voice) (arg : Str) (isReal : Bool) (w : Wrong) : Str :=
  match voice, w with
  | .basic, .notANumber => arg ++ str ": expected numeric value"
  | .basic, .leftOver => arg ++ str ": not completely converted"
  | .basic, .range => arg ++ str ": Numerical result out of range"
  | .extended, .range => str "warning: " ++ arg ++ str ": Numerical result out of range"
  | .extended, _ =>
    let kind := if isReal then "invalid number"
      else match arg.dropWhile Host.isSpace with
        | '0' :: 'x' :: _ => "invalid hex number"
        | '0' :: 'X' :: _ => "invalid hex number"
        | '0' :: _ => "invalid octal number"
        | _ => "invalid number"
    arg ++ str (": " ++ kind)
  | .program, .notANumber => Host.Quote.curly arg ++ str ": expected a numeric value"
  | .program, .leftOver => Host.Quote.curly arg ++ str ": value not completely converted"
  | .program, .range => Host.Quote.curly arg ++ str ": Numerical result out of range"

/-- The words for a malformed directive. -/
def badWords (voice : Voice) (raw : Str) (last : Option Char) : Str :=
  let marked (s : Str) : Str := Char.ofNat 96 :: s ++ ['\'']
  match voice, last with
  | .basic, none => str "missing format character"
  | .basic, some _ => raw ++ str ": invalid directive"
  | .extended, none => marked raw ++ str ": missing format character"
  | .extended, some c => marked [c] ++ str ": invalid format character"
  | .program, _ => raw ++ str ": invalid conversion specification"

/-- An argument laid out as its conversion says. -/
def convert (voice : Voice) (l : Layout) (conversion : Char) (arg : Str) (p : Progress) : Progress :=
  let take (s : Str) : Str := match l.precision with
    | some n => if voice = .extended then ((Host.characters s).take n).flatten else s.take n
    | none => s
  let pad (s : Str) : Str :=
    let wide := if voice = .extended then s.length - (Host.characters s).length else 0
    { l with width := if l.width = 0 then 0 else l.width + wide }.pad s
  match conversion with
  | 's' => p.put (pad (take arg))
  | 'c' => p.put (l.pad (if arg = [] then ['\x00'] else arg.take 1))
  | 'q' =>
    p.put (pad (take (if voice = .program then Host.Quote.ifNeeded arg else Shell.Requote.slashed arg)))
  | 'b' =>
    let (text, goesOn) := (argumentEscapes voice).read arg
    { p.put (pad (take text)) with isOver := !goesOn }
  | c =>
    let checked (isReal : Bool) (w : Option Wrong) (p : Progress) : Progress := match w with
      | some w => p.complain (wrongWords voice arg isReal w)
      | none => p
    if "diouxX".toList.contains c then
      let (n, w) := integerOf voice (c = 'd' || c = 'i') arg
      let p := checked false w p
      p.put (if c = 'd' || c = 'i' then l.signed n else l.unsigned c n.toNat)
    else
      let (r, w) := realOf voice arg
      (checked true w p).put (shownReal voice l c r)

/-- A width or a precision, which may take an argument. -/
def sized (voice : Voice) : Size → Progress → Option Int × Progress
  | .absent, p => (none, p)
  | .given n, p => (some n, p)
  | .asked, p =>
    match p.args with
    | [] => (some 0, p)
    | arg :: rest =>
      let (n, w) := integerOf voice true arg
      let p := { p with args := rest }
      (some n, match w with
        | some w => p.complain (wrongWords voice arg false w)
        | none => p)

/-- Write one directive. -/
def step (voice : Voice) (p : Progress) (d : Directive) : Progress :=
  if p.isOver then p
  else match d with
    | .text s => p.put s
    | .stop => { p with isOver := true }
    | .bad raw last =>
      { p.complain (badWords voice raw last) with
        isOver := true, status := if voice = .basic then 2 else 1 }
    | .convert flags width precision conversion =>
      let (width, p) := sized voice width p
      let (precision, p) := sized voice precision p
      let flags := match width with
        | some n => if n < 0 then '-' :: flags else flags
        | none => flags
      let l : Layout := ⟨flags, (width.getD 0).natAbs, precision.bind fun n =>
        if n < 0 then none else some n.toNat⟩
      let arg := p.args.head?.getD []
      convert voice l conversion arg { p with args := p.args.tail }

/-- Write a format again and again, as long as it takes arguments and some are left. -/
def repeated (voice : Voice) (ds : List Directive) : Nat → Progress → Progress
  | 0, p => p
  | fuel + 1, p =>
    let q := ds.foldl (step voice) p
    if q.isOver || q.args = [] || q.args.length = p.args.length then q
    else repeated voice ds fuel q

/-- Write arguments through a format: the events in order, and the status. -/
def run (voice : Voice) (format : Str) (args : List Str) : List Event × Nat :=
  let p := repeated voice (directives voice format) (args.length + 1) ⟨[], args, 0, false⟩
  let p := if voice = .program && !p.isOver then
      match p.args with
      | extra :: _ =>
        { p.complain (str "warning: ignoring excess arguments, starting with " ++
          Host.Quote.curly extra) with status := p.status }
      | [] => p
    else p
  (p.events.reverse, p.status)

/-- The texts that are written. -/
def written (events : List Event) : Str := events.flatMap fun e => match e with
  | .put s => s
  | .complain _ => []

end Format

end StaleBuild.Utility
