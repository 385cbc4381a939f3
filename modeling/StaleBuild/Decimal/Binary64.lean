import StaleBuild.Power

/-!
Decimal numbers as 64-bit binary floating point sees them. A decimal number `d · 10^e` is rounded
to the nearest value `m · 2^q` with `m` below `2^53` and `q` at least `-1074`, ties to an even `m`;
from half way past the greatest value on it is infinite. The shown form of a value is the shortest
decimal that rounds back to it, written without an exponent.

All arithmetic is exact, on natural numbers.
-/

namespace StaleBuild.Decimal

/-- A value of 64-bit binary floating point. -/
inductive Binary64 where
  /-- The value `mantissa · 2^exponent`, negated if `negative`. -/
  | finite (negative : Bool) (mantissa : Nat) (exponent : Int)
  | infinite (negative : Bool)
  | notANumber
deriving DecidableEq

/-- A fraction of natural numbers times a power of a base. -/
def scaled (base num den : Nat) (e : Int) : Nat × Nat :=
  if 0 ≤ e then (num * base ^ e.toNat, den) else (num, den * base ^ (-e).toNat)

/-- The integer nearest to a fraction, a half going to the even neighbour. -/
def roundDiv (num den : Nat) : Nat :=
  let floor := num / den
  let rest := num % den
  if 2 * rest < den then floor
  else if den < 2 * rest then floor + 1
  else floor + floor % 2

/-- The least binary exponent. -/
def leastExponent : Int := -1074

/-- The exponent at which a positive fraction has a mantissa of 53 bits. -/
def fittingExponent (num den : Nat) : Int :=
  let guess : Int := (num.log2 : Int) - (den.log2 : Int) - 52
  let (n, d) := scaled 2 num den (-guess)
  let fitting := if n < 2 ^ 52 * d then guess - 1 else guess
  if fitting < leastExponent then leastExponent else fitting

/-- The value nearest to a fraction. -/
def nearest (negative : Bool) (num den : Nat) : Binary64 :=
  if num = 0 then .finite negative 0 0
  else
    let q := fittingExponent num den
    let (n, d) := scaled 2 num den (-q)
    let rounded := roundDiv n d
    let (m, q) := if rounded = 2 ^ 53 then (2 ^ 52, q + 1) else (rounded, q)
    if 971 < q then .infinite negative else .finite negative m q

/-- The value nearest to `digits · 10^exponent`, where `digits` has `length` digits. Exponents far
out of range are decided without computing the power. -/
def ofDecimal (negative : Bool) (digits length : Nat) (exponent : Int) : Binary64 :=
  if digits = 0 then .finite negative 0 0
  else if 400 < exponent + length then .infinite negative
  else if exponent + length < -400 then .finite negative 0 0
  else
    let (n, d) := scaled 10 digits 1 exponent
    nearest negative n d

/-! ## The shown form -/

/-- The decimal exponent of a positive fraction: the greatest `e` with `10^e` not above it. -/
def decimalExponent (num den : Nat) : Int :=
  let guess : Int := (((num.log2 : Int) - (den.log2 : Int)) * 1233).fdiv 4096
  let reaches (e : Int) : Bool :=
    let (n, d) := scaled 10 num den (-e)
    d ≤ n
  if reaches (guess + 1) then guess + 1 else if reaches guess then guess else guess - 1

/-- The bounds of what rounds to a value, as fractions over `4 · 2^-q`: lower, value, upper. -/
def bounds (m : Nat) (q : Int) : Nat × Nat × Nat :=
  let lower := if m = 2 ^ 52 ∧ leastExponent < q then 4 * m - 1 else 4 * m - 2
  (lower, 4 * m, 4 * m + 2)

/-- The digits, among those of a given number of places, that round to the value and lie nearest
to it. -/
def digitsOf? (m : Nat) (q : Int) (e : Int) (places : Nat) : Option Nat :=
  let (lower, value, upper) := bounds m q
  -- everything in units of the last place
  let unit (x : Nat) : Nat × Nat :=
    let (n, d) := scaled 2 x 4 q
    scaled 10 n d (places - 1 - e)
  let (v, d) := unit value
  let (lo, dl) := unit lower
  let (hi, dh) := unit upper
  let inside (k : Nat) : Bool :=
    if m % 2 = 0 then lo ≤ k * dl && k * dh ≤ hi else lo < k * dl && k * dh < hi
  let below := v / d
  let above := below + 1
  match inside below && below ≠ 0, inside above with
  | true, true => some (roundDiv v d)
  | true, false => some below
  | false, true => some above
  | false, false => none

/-- The fewest digits that round to a positive value, with the power of ten of the last one. -/
def shortest (m : Nat) (q : Int) : Nat × Int :=
  let (n, d) := scaled 2 m 1 q
  let e := decimalExponent n d
  match (List.range 17).findSome? fun i => (digitsOf? m q e (i + 1)).map fun ds => (ds, i) with
  -- the neighbour above may have one more digit, which is then a power of ten
  | some (digits, i) => if digits = 10 ^ (i + 1) then (10 ^ i, e - i + 1) else (digits, e - i)
  | none => (0, 0)

/-- The digits of a number without an exponent, with `.0` behind a whole number. -/
def positional (digits : Nat) (power : Int) : String :=
  let ds := Nat.toDigits 10 digits
  if 0 ≤ power then String.ofList (ds ++ List.replicate power.toNat '0') ++ ".0"
  else
    let places := (-power).toNat
    let padded := List.replicate (places + 1 - ds.length) '0' ++ ds
    let whole := padded.take (padded.length - places)
    String.ofList whole ++ "." ++ String.ofList (padded.drop (padded.length - places))

/-- The shown form of a value. -/
def Binary64.shown : Binary64 → String
  | .notANumber => "NaN"
  | .infinite negative => if negative then "-inf" else "inf"
  | .finite negative m q =>
    let magnitude :=
      if m = 0 then "0.0"
      else
        let (digits, power) := shortest m q
        positional digits power
    if negative then "-" ++ magnitude else magnitude

end StaleBuild.Decimal
