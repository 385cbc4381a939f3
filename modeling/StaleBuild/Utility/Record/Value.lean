import StaleBuild.Decimal.Double
import StaleBuild.Utility.Format
import StaleBuild.Utility.Record.Syntax

/-!
Values of records: numbers, texts, and texts that were read and count as numbers if they look like some.
-/

namespace StaleBuild.Utility.Record

open Host (Str str)
open Decimal (Binary64)

/-- A value. -/
inductive Value where
  | unset
  | number (x : Float)
  | text (s : Str)
  /-- A text that was read. -/
  | given (s : Str)

namespace Value

/-- A value as a number that a text starts with. -/
def parsed (s : Str) : Float × Str :=
  match Format.realAt s with
  | none => (0, s)
  | some (.undefined, rest) => (0.0 / 0.0, rest)
  | some (.infinite n, rest) => ((Binary64.infinite n).toFloat, rest)
  | some (.finite n num den, rest) => ((Decimal.nearest n num den).toFloat, rest)

/-- Whether a text looks like a number, with blanks around it. -/
def looksNumeric (s : Str) : Bool :=
  match Format.realAt s with
  | none => false
  | some (_, rest) => rest.all Host.isSpace

/-- A number made of a whole one. -/
def ofInt (n : Int) : Value := .number (Decimal.nearest (n < 0) n.natAbs 1).toFloat

/-- The value as a number. -/
def toNumber : Value → Float
  | .unset => 0
  | .number x => x
  | .text s => (parsed s).1
  | .given s => (parsed s).1

/-- Whether a value counts as a number in a comparison. -/
def isNumeric : Value → Bool
  | .unset => true
  | .number _ => true
  | .text _ => false
  | .given s => looksNumeric s

/-- The number as a quotient with a sign. -/
def realOf (x : Float) : Format.Real :=
  match Binary64.ofFloat x with
  | .finite n m q =>
    let (num, den) := Decimal.scaled 2 m 1 q
    .finite n num den
  | .infinite n => .infinite n
  | .notANumber => .undefined

/-- The greatest number that is laid out as a whole one. -/
def wholeLimit : Int := 2 ^ 63

/-- The whole number that a number is, if it is one. -/
def whole? (x : Float) : Option Int :=
  match Binary64.ofFloat x with
  | .finite n m q =>
    match (Binary64.finite n m q).whole? with
    | some k =>
      let same : Bool := if 0 ≤ q then true else m % 2 ^ (-q).toNat = 0
      if same && k < wholeLimit && -wholeLimit ≤ k then some k else none
    | none => none
  | _ => none

/-- A number laid out in one of the ways for fractions. -/
def fraction (l : Format.Layout) (conversion : Char) (x : Float) : Str :=
  match realOf x with
  | .undefined => ({ l with flags := l.flags.filter (· ≠ '0') } : Format.Layout).pad (str "-nan")
  | r => Format.shownReal .program l conversion r

/-- The whole part of a number as a word of 64 bits holds it. -/
def clipped (x : Float) : Int :=
  match Binary64.ofFloat x with
  | .notANumber => -wholeLimit
  | .infinite n => if n then -wholeLimit else wholeLimit - 1
  | b => max (-wholeLimit) (min (wholeLimit - 1) ((b.whole?).getD 0))

/-- Where a value is true: numbers that are not zero, and texts that are not empty. -/
def isTrue : Value → Bool
  | .unset => false
  | .number x => x != 0
  | .text s => s ≠ []
  | .given s => if looksNumeric s then (parsed s).1 != 0 else s ≠ []

end Value

/-! ## Layout -/

namespace Layout

/-- A conversion of a format: flags, width and precision, which can be arguments, and the letter. -/
structure Conversion where
  flags : Str
  width : Str
  precision : Option Str
  letter : Char

/-- A part of a format. -/
inductive Piece where
  | text (s : Str)
  | conversion (c : Conversion)
  | broken

/-- The conversion behind a percent sign, and what follows it. -/
def conversionAt (s : Str) : Option (Conversion × Str) :=
  let flags := s.takeWhile fun c => "-+ #0".toList.contains c
  let s := s.drop flags.length
  let size (s : Str) : Str × Str := match s with
    | '*' :: rest => (['*'], rest)
    | s =>
      let ds := s.takeWhile Char.isDigit
      (ds, s.drop ds.length)
  let (width, s) := size s
  let (precision, s) : Option Str × Str := match s with
    | '.' :: rest =>
      let (p, rest) := size rest
      (some p, rest)
    | s => (none, s)
  let s := s.dropWhile fun c => c = 'l' || c = 'h'
  match s with
  | [] => none
  | c :: rest => some (⟨flags, width, precision, c⟩, rest)

/-- The parts of a format. -/
def pieces : Nat → Str → List Piece
  | 0, _ => []
  | _, [] => []
  | fuel + 1, '%' :: '%' :: rest => .text ['%'] :: pieces fuel rest
  | fuel + 1, '%' :: rest =>
    match conversionAt rest with
    | none => [.broken]
    | some (c, rest) => .conversion c :: pieces fuel rest
  | fuel + 1, s =>
    let t := s.takeWhile (· ≠ '%')
    .text t :: pieces fuel (s.drop t.length)

/-- Why a format cannot be filled. -/
inductive Fault where
  | tooFew
  | improper (place : Nat)

/-- The next argument. -/
def argument : List Value → Except Fault (Value × List Value)
  | [] => .error .tooFew
  | v :: rest => .ok (v, rest)

/-- A width or a precision, and the arguments that are left. -/
def size (s : Str) (args : List Value) : Except Fault (Int × List Value) :=
  if s = ['*'] then (argument args).map fun (v, rest) => (Value.clipped v.toNumber, rest)
  else .ok ((Host.foldDigits 10 s : Nat), args)

/-- Fill a format; the text so far comes back with a fault. `shown` gives the text of a value. -/
def fill (shown : Value → Str) : List Piece → Nat → List Value → Str × Option Fault
  | [], _, _ => ([], none)
  | .text s :: rest, n, args =>
    let (t, f) := fill shown rest n args
    (s ++ t, f)
  | .broken :: _, _, _ => ([], some .tooFew)
  | .conversion c :: rest, n, args =>
    let one : Except Fault (Str × List Value) := do
      let (w, args) ← size c.width args
      let (p, args) ← match c.precision with
        | none => pure (none, args)
        | some p => do
          let (k, args) ← size p args
          pure (if k < 0 then none else some k.toNat, args)
      let flags := if w < 0 then '-' :: c.flags else c.flags
      let layout : Format.Layout := ⟨flags, w.natAbs, p⟩
      let (v, args) ← argument args
      match c.letter with
      | 'c' =>
        let s : Str := match v with
          | .number x => [Char.ofNat ((Value.clipped x) % 256).toNat]
          | .given s => if Value.looksNumeric s then [Char.ofNat ((Value.clipped v.toNumber) % 256).toNat]
            else s.take 1
          | v => (shown v).take 1
        pure (layout.pad (if s = [] then ['\x00'] else s), args)
      | 's' =>
        let s := shown v
        pure (layout.pad (match p with
          | some k => s.take k
          | none => s), args)
      | 'd' => pure (layout.signed (Value.clipped v.toNumber), args)
      | 'i' => pure (layout.signed (Value.clipped v.toNumber), args)
      | l =>
        if "ouxX".toList.contains l then
          pure (layout.unsigned l ((Value.clipped v.toNumber) % 2 ^ 64).toNat, args)
        else if "eEfFgG".toList.contains l then pure (Value.fraction layout l v.toNumber, args)
        else .error (.improper n)
    match one with
    | .error f => ([], some f)
    | .ok (s, args) =>
      let (t, f) := fill shown rest (n + 1) args
      (s ++ t, f)

end Layout

/-- A value as text, with the format for numbers that are not whole. -/
def Value.shown (format : Str) : Value → Str
  | .unset => []
  | .text s => s
  | .given s => s
  | .number x =>
    match Value.whole? x with
    | some n => Host.decimal n
    | none => (Layout.fill (fun _ => []) (Layout.pieces (format.length + 1) format) 1 [.number x]).1

end StaleBuild.Utility.Record
