import StaleBuild.Decimal.Binary64

/-!
Numbers of a fixed count of binary digits, and their decimal texts with a given number of digits. A
decimal number is taken as a quotient and rounded to the nearest number of so many binary digits; a
text is the exact value rounded to the nearest decimal number, and of two that are equally near the
even one.

Unlike `Decimal.Binary64`, which the reader of project files needs, this serves only the utilities that
a command may start.
-/

namespace StaleBuild.Decimal

/-- The number `mantissa * 2 ^ exponent`. -/
structure Dyadic where
  mantissa : Nat
  exponent : Int
deriving DecidableEq

namespace Dyadic

/-- The nearest number of so many binary digits, with no exponent below a least one. -/
def ofRatio (digits : Nat) (least : Int) (num den : Nat) : Dyadic :=
  if num = 0 then ⟨0, 0⟩
  else
    let guess : Int := (Nat.log2 num : Int) - Nat.log2 den - digits + 1
    let (n, d) := scaled 2 num den (-guess)
    let e := if n / d < 2 ^ (digits - 1) then guess - 1 else guess
    let e := max e least
    let (n, d) := scaled 2 num den (-e)
    ⟨roundDiv n d, e⟩

/-- The digits and the exponents of the two sizes of numbers that programs calculate with. -/
def double (num den : Nat) : Dyadic := ofRatio 53 (-1074) num den

def extended (num den : Nat) : Dyadic := ofRatio 64 (-16445) num den

/-- The number as a quotient. -/
def ratio (x : Dyadic) : Nat × Nat := scaled 2 x.mantissa 1 x.exponent

/-- Whether a number is too great for its size. -/
def isInfinite (greatest : Int) (x : Dyadic) : Bool :=
  x.mantissa ≠ 0 && greatest < (Nat.log2 x.mantissa : Int) + x.exponent

/-! ## Texts -/

/-- Digits of a whole number with a point before the last `places` of them. -/
def pointed (places : Nat) (point : Bool) (n : Nat) : List Char :=
  let digits := Nat.toDigits 10 n
  let digits := List.replicate (places + 1 - digits.length) '0' ++ digits
  let whole := digits.take (digits.length - places)
  if places = 0 then whole ++ (if point then ['.'] else [])
  else whole ++ '.' :: digits.drop (digits.length - places)

/-- A quotient with so many places behind the point. -/
def fixed (places : Nat) (point : Bool) (num den : Nat) : List Char :=
  pointed places point (roundDiv (num * 10 ^ places) den)

/-- The quotient `num / den / 10 ^ e` rounded. -/
def atPower (num den : Nat) (e : Int) : Nat :=
  if 0 ≤ e then roundDiv num (den * 10 ^ e.toNat) else roundDiv (num * 10 ^ (-e).toNat) den

/-- The exponent of the first decimal digit of a quotient that is not zero. -/
def leading (num den : Nat) : Int :=
  let guess : Int := (Nat.toDigits 10 num).length - (Nat.toDigits 10 den).length
  let isBelow : Bool :=
    if 0 ≤ guess then num < den * 10 ^ guess.toNat else num * 10 ^ (-guess).toNat < den
  if isBelow then guess - 1 else guess

/-- The digits of a quotient and the exponent of the first one, for so many places behind it. -/
def significant (places : Nat) (num den : Nat) : Nat × Int :=
  if num = 0 then (0, 0)
  else
    let e := leading num den
    let n := atPower num den (e - places)
    if 10 ^ (places + 1) ≤ n then (10 ^ places, e + 1) else (n, e)

/-- An exponent with a sign and at least two digits. -/
def exponentText (letter : Char) (e : Int) : List Char :=
  let digits := Nat.toDigits 10 e.natAbs
  letter :: (if e < 0 then '-' else '+') :: (if digits.length < 2 then '0' :: digits else digits)

/-- A quotient with one digit before the point, so many behind it, and an exponent. -/
def scientific (places : Nat) (point : Bool) (letter : Char) (num den : Nat) : List Char :=
  let (n, e) := significant places num den
  pointed places point n ++ exponentText letter e

/-- A text without zeros at its end behind a point, nor the point if nothing is left behind it. -/
def trimmed (s : List Char) : List Char :=
  if s.contains '.' then
    ((s.reverse.dropWhile (· = '0')).dropWhile (· = '.')).reverse
  else s

/-- A quotient with so many digits, in the shorter of the two ways. -/
def general (digits : Nat) (keepsZeros : Bool) (letter : Char) (num den : Nat) : List Char :=
  let digits := max digits 1
  let (n, e) := significant (digits - 1) num den
  if e < -4 || (digits : Int) ≤ e then
    let front := pointed (digits - 1) keepsZeros n
    (if keepsZeros then front else trimmed front) ++ exponentText letter e
  else
    let text := fixed ((digits : Int) - 1 - e).toNat keepsZeros num den
    if keepsZeros then text else trimmed text

end Dyadic

end StaleBuild.Decimal
