import StaleBuild.Host.Text

/-!
Escapes with a backslash in texts that programs write. Programs differ in which escapes they know; an
unknown one stands for itself. One of them, `\c`, ends all output.
-/

namespace StaleBuild.Utility

open Host (Str)

/-- The escapes that a program knows. -/
structure Escapes where
  /-- A zero in front of octal digits does not count as one of them. -/
  afterZero : Bool
  /-- Octal digits need no zero in front. -/
  octal : Bool
  /-- Numbers to base 16, of bytes and of characters. -/
  hexadecimal : Bool
  characters : Bool
  /-- Further characters that stand for themselves behind a backslash. -/
  bare : List Char
  /-- Whether `\c` ends the output. -/
  ends : Bool

namespace Escapes

/-- The character that a letter behind a backslash stands for. -/
def letter? (c : Char) : Option Char :=
  match c with
  | 'a' => some '\x07'
  | 'b' => some '\x08'
  | 'e' => some '\x1b'
  | 'f' => some '\x0c'
  | 'n' => some '\n'
  | 'r' => some '\r'
  | 't' => some '\t'
  | 'v' => some '\x0b'
  | '\\' => some '\\'
  | _ => none

/-- The number of at most so many digits at the start of a text, and the text behind them. -/
def digits (base width : Nat) (s : Str) : Nat × Str :=
  let ds := (s.take width).takeWhile (Host.isDigitIn base)
  (Host.foldDigits base ds, s.drop ds.length)

/-- A byte. -/
def byte (n : Nat) : Str := [Char.ofNat (n % 256)]

/-- What an escape stands for, given the text behind its backslash, and what follows it. -/
def one? (k : Escapes) : Str → Option (Str × Str)
  | [] => none
  | c :: rest =>
    let startsHex : Bool := (rest.head?.map (Host.isDigitIn 16)).getD false
    let numbered (base width : Nat) (s : Str) (f : Nat → Str) : Option (Str × Str) :=
      let (n, after) := digits base width s
      some (f n, after)
    let character (n : Nat) : Str := Host.ofBytes (Utf8.encodeChars [Char.ofNat n])
    if c = '0' && k.afterZero then numbered 8 3 rest byte
    else if Host.isDigitIn 8 c && k.octal then numbered 8 3 (c :: rest) byte
    else if c = 'x' && k.hexadecimal && startsHex then numbered 16 2 rest byte
    else if c = 'u' && k.characters && startsHex then numbered 16 4 rest character
    else if c = 'U' && k.characters && startsHex then numbered 16 8 rest character
    else if c = 'E' && k.characters then some (['\x1b'], rest)
    else match letter? c with
      | some d => some ([d], rest)
      | none => if k.bare.contains c then some ([c], rest) else none

/-- A text with its escapes read, reversed, and whether output goes on behind it. -/
def readWithin (k : Escapes) : Nat → Str → Str → Str × Bool
  | 0, _, taken => (taken.reverse, true)
  | _ + 1, [], taken => (taken.reverse, true)
  | fuel + 1, c :: rest, taken =>
    if c = '\\' then
      if k.ends && rest.head? = some 'c' then (taken.reverse, false)
      else match k.one? rest with
        | some (text, after) => readWithin k fuel after (text.reverse ++ taken)
        | none => readWithin k fuel rest (c :: taken)
    else readWithin k fuel rest (c :: taken)

/-- A text with its escapes read, and whether output goes on behind it. -/
def read (k : Escapes) (s : Str) : Str × Bool := readWithin k (s.length + 1) s []

/-- The escapes of programs that write their arguments, in the basic dialect of shells. -/
def basic : Escapes := ⟨true, true, false, false, [], true⟩

/-- The same in the extended dialect. -/
def extended : Escapes := ⟨true, false, true, true, [], true⟩

/-- The same for programs outside of shells. -/
def program : Escapes := ⟨true, true, true, false, [], true⟩

end Escapes

end StaleBuild.Utility
