import StaleBuild.Host.Text

/-!
Letters in upper and lower case, beyond ASCII: the letters with marks of the Latin blocks, Greek,
Cyrillic and Armenian.
-/

namespace StaleBuild.Host.Case

/-- The code of a letter in lower case. -/
def lowerCode (n : Nat) : Nat :=
  let isEven : Bool := n % 2 = 0
  if n < 0x80 then (if 65 ≤ n && n ≤ 90 then n + 32 else n)
  else if n < 0x100 then (if 0xC0 ≤ n && n ≤ 0xDE && n ≠ 0xD7 then n + 32 else n)
  else if n < 0x138 then (if isEven && n ≠ 0x130 then n + 1 else n)
  else if n < 0x14A then (if !isEven && n ≠ 0x149 then n + 1 else n)
  else if n < 0x178 then (if isEven then n + 1 else n)
  else if n = 0x178 then 0xFF
  else if n < 0x180 then (if !isEven && n ≠ 0x17F then n + 1 else n)
  else if 0x388 ≤ n && n ≤ 0x38A then n + 37
  else if n = 0x386 then 0x3AC
  else if n = 0x38C then 0x3CC
  else if n = 0x38E || n = 0x38F then n + 63
  else if 0x391 ≤ n && n ≤ 0x3AB && n ≠ 0x3A2 then n + 32
  else if 0x400 ≤ n && n ≤ 0x40F then n + 80
  else if 0x410 ≤ n && n ≤ 0x42F then n + 32
  else if 0x460 ≤ n && n < 0x482 then (if isEven then n + 1 else n)
  else if 0x531 ≤ n && n ≤ 0x556 then n + 48
  else if 0x1E00 ≤ n && n < 0x1E96 then (if isEven then n + 1 else n)
  else if 0x1EA0 ≤ n && n < 0x1F00 then (if isEven then n + 1 else n)
  else n

/-- The code of a letter in upper case. -/
def upperCode (n : Nat) : Nat :=
  let candidates : List Nat := [n - 32, n - 1, n - 80, n - 48, n - 37, n - 38, n - 63, n - 64]
  if n = 0xFF then 0x178
  else if n = 0xB5 then 0x39C
  else (candidates.find? fun m => m ≠ n && lowerCode m = n).getD n

/-- The code of the same letter in the other case. -/
def otherCode (n : Nat) : Nat := if lowerCode n = n then upperCode n else lowerCode n

/-- A character, as its bytes, with its code changed. -/
def changed (f : Nat → Nat) (g : Str) : Str :=
  match g with
  | [c] => if c.toNat < 128 then [Char.ofNat (f c.toNat)] else g
  | _ =>
    match Utf8.decodeLossyChars (toBytes g) with
    | [c] => if f c.toNat = c.toNat then g else str (String.singleton (Char.ofNat (f c.toNat)))
    | _ => g

/-- A text in lower case. -/
def lower (s : Str) : Str := (characters s).flatMap (changed lowerCode)

/-- A text in upper case. -/
def upper (s : Str) : Str := (characters s).flatMap (changed upperCode)

end StaleBuild.Host.Case
