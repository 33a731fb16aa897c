/-!
# Magnitudes in binary

A magnitude is a whole number of units, where a unit is a power of two, or it is infinite. A
result that needs more binary digits than there is room for is rounded to the nearest magnitude
that fits, and a tie goes to the one whose last digit is zero. A result that is too large becomes
infinite and one that is too small becomes zero; `maxExponent` and `minExponent` say when.
-/

namespace GridRobot

/-- A magnitude: `units * 2 ^ exponent`, where `units` is odd or everything is zero. -/
inductive Magnitude where
  | finite (units : Nat) (exponent : Int)
  | infinite
  deriving DecidableEq, Repr, Inhabited

namespace Magnitude

/-- Nothing. -/
def zero : Magnitude :=
  finite 0 0

/-- How many binary digits a number has. -/
def width (n : Nat) : Nat :=
  if n = 0 then 0 else n.log2 + 1

/-- How often two divides a number that is not zero. -/
def twos (n : Nat) : Nat :=
  (n ^^^ (n - 1)).log2

/-- The place of the first binary digit in the largest magnitudes. -/
def maxExponent : Int := 2147483647

/-- The place of the first binary digit in the smallest magnitudes. -/
def minExponent : Int := -2147483648

/-- The magnitude of so many units. -/
def ofUnits (units : Nat) (exponent : Int) : Magnitude :=
  if units = 0 then zero
  else finite (units >>> twos units) (exponent + twos units)

/-! ## Rounding -/

/-- The first `bits` binary digits of a number, rounded, and how many digits were dropped. `more`
tells whether the number is a little larger than it says. -/
def firstDigits (bits : Nat) (more : Bool) (n : Nat) : Nat × Nat :=
  let dropped := width n - bits
  if dropped = 0 then (n, 0)
  else
    let kept := n >>> dropped
    let rest := n % (1 <<< dropped)
    let half := 1 <<< (dropped - 1)
    if half < rest || (rest = half && (more || kept % 2 = 1)) then (kept + 1, dropped)
    else (kept, dropped)

/-- The magnitude with `bits` binary digits that is nearest to so many units. -/
def round (bits : Nat) (more : Bool) (units : Nat) (exponent : Int) : Magnitude :=
  let top := exponent + width units
  if units = 0 || top < minExponent then zero
  else if maxExponent < top then infinite
  else
    let (kept, dropped) := firstDigits bits more units
    if maxExponent < exponent + dropped + width kept then infinite
    else ofUnits kept (exponent + dropped)

/-! ## Arithmetic -/

/-- Two finite magnitudes in a common unit: how many units each of them is, and the unit. -/
def aligned (m : Nat) (a : Int) (n : Nat) (b : Int) : Nat × Nat × Int :=
  (m <<< (a - b).toNat, n <<< (b - a).toNat, min a b)

/-- The sum, rounded. -/
def add (bits : Nat) : Magnitude → Magnitude → Magnitude
  | finite m a, finite n b =>
    let (m, n, unit) := aligned m a n b
    round bits false (m + n) unit
  | _, _ => infinite

/-- The larger of two magnitudes less the smaller, rounded. -/
def difference (bits : Nat) : Magnitude → Magnitude → Magnitude
  | finite m a, finite n b =>
    let (m, n, unit) := aligned m a n b
    round bits false (max m n - min m n) unit
  | _, _ => infinite

/-- The product, rounded. -/
def mul (bits : Nat) : Magnitude → Magnitude → Magnitude
  | finite m a, finite n b => round bits false (m * n) (a + b)
  | _, _ => infinite

/-- The quotient, rounded. One more digit is found than there is room for, and whether anything
is left after it. -/
def div (bits : Nat) : Magnitude → Magnitude → Magnitude
  | finite m a, finite n b =>
    if n = 0 then infinite
    else
      let shift := bits + 2 + width n - width m
      let m := m <<< shift
      round bits (m % n ≠ 0) (m / n) (a - b - shift)
  | finite _ _, infinite => zero
  | infinite, _ => infinite

/-- Whether the first magnitude is less than the second. -/
def less : Magnitude → Magnitude → Bool
  | infinite, _ => false
  | finite _ _, infinite => true
  | finite m a, finite n b =>
    if m = 0 || n = 0 then m < n
    else if a + width m = b + width n then
      let (m, n, _) := aligned m a n b
      m < n
    else a + width m < b + width n

/-- The whole part of a finite magnitude. -/
def whole? : Magnitude → Option Nat
  | finite m a => some (if a < 0 then m >>> (-a).toNat else m <<< a.toNat)
  | infinite => none

/-- Whether a magnitude is a whole number. -/
def isWhole : Magnitude → Bool
  | finite _ a => 0 ≤ a
  | infinite => false

/-! ## Powers of five -/

/-- Multiplies a magnitude by a power, where `square` is the base raised to the binary place that
is looked at. The squares are carried with more digits. -/
def timesPower : Nat → Nat → Magnitude → Magnitude → Nat → Magnitude
  | 0, _, z, _, _ => z
  | n + 1, bits, z, square, k =>
    if k = 0 then z
    else
      let z := if k % 2 = 1 then mul bits z square else z
      timesPower n bits z (mul (bits + 64) square square) (k / 2)

/-- A power of five with an exponent below `2 ^ 64`. The first ones are exact; the others are
multiplied up from the last of those by repeated squares. -/
def powFive (bits n : Nat) : Magnitude :=
  if n ≤ 27 then round bits false (Nat.pow 5 n) 0
  else timesPower 64 bits (round bits false (Nat.pow 5 27) 0) (finite 5 0) (n - 27)

end Magnitude

end GridRobot
