import StaleBuild.Decimal.Binary64

/-!
The numbers that processors calculate with, as values of 64-bit binary floating point and back.

They serve only the utilities that a command may start.
-/

namespace StaleBuild.Decimal

/-- The value that 64 bits stand for. -/
def Binary64.ofBits (bits : UInt64) : Binary64 :=
  let n := bits.toNat
  let negative : Bool := n / 2 ^ 63 = 1
  let exponent : Nat := n / 2 ^ 52 % 2 ^ 11
  let fraction := n % 2 ^ 52
  if exponent = 2047 then (if fraction = 0 then .infinite negative else .notANumber)
  else if exponent = 0 then .finite negative fraction leastExponent
  else .finite negative (fraction + 2 ^ 52) ((exponent : Int) - 1075)

/-- The bits of a value. -/
def Binary64.toBits : Binary64 → UInt64
  | .notANumber => 0x7FF8000000000000
  | .infinite negative => if negative then 0xFFF0000000000000 else 0x7FF0000000000000
  | .finite negative m q =>
    let sign := if negative then 2 ^ 63 else 0
    -- a mantissa of fewer bits is moved up as far as the exponent lets it
    let up := min (52 - min 52 m.log2) (q - leastExponent).toNat
    let m := m * 2 ^ up
    let q := q - up
    if m = 0 then UInt64.ofNat sign
    else if m < 2 ^ 52 then UInt64.ofNat (sign + m)
    else UInt64.ofNat (sign + (q + 1075).toNat * 2 ^ 52 + (m - 2 ^ 52))

/-- A number as a value. -/
def Binary64.ofFloat (x : Float) : Binary64 := .ofBits x.toBits

/-- A value as a number. -/
def Binary64.toFloat (x : Binary64) : Float := Float.ofBits x.toBits

/-- The whole part of a value, rounded toward zero. -/
def Binary64.whole? : Binary64 → Option Int
  | .finite negative m q =>
    let n : Int := if 0 ≤ q then (m * 2 ^ q.toNat : Nat) else (m / 2 ^ (-q).toNat : Nat)
    some (if negative then -n else n)
  | _ => none

/-- What is left of a division of two values, with the sign of the first one. -/
def Binary64.rest : Binary64 → Binary64 → Binary64
  | .finite a m q, .finite _ n r =>
    if n = 0 then .notANumber
    else
      let least := min q r
      let x := m * 2 ^ (q - least).toNat
      let y := n * 2 ^ (r - least).toNat
      let (num, den) := scaled 2 (x % y) 1 least
      match nearest a num den with
      | .finite _ m q => .finite a m q
      | v => v
  | .finite a m q, .infinite _ => .finite a m q
  | _, _ => .notANumber

end StaleBuild.Decimal
