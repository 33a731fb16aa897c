import GridRobot.Number.Magnitude
import GridRobot.Text.Basic

/-!
# Decimal digits of a magnitude

Every finite magnitude has finitely many decimal digits. `Decimal.shortest` keeps as few of them
as are needed to tell the magnitude from its neighbours with the same number of binary digits: it
goes along the digits of the magnitude and of the two ends of the interval halfway to its
neighbours, and stops where cutting off stays between the ends.
-/

namespace GridRobot

/-- A decimal fraction: digits without zeros at the end, and how many of them stand before the
point. -/
structure Decimal where
  digits : List Nat
  point : Int
  deriving DecidableEq, Repr, Inhabited

namespace Decimal

/-! ## All digits -/

/-- The last `2 ^ k` decimal digits of a number, put before others. -/
def digitsOnto : Nat → Nat → List Nat → List Nat
  | 0, n, ds => n % 10 :: ds
  | k + 1, n, ds =>
    let unit := Nat.pow 10 (1 <<< k)
    digitsOnto k (n / unit) (digitsOnto k (n % unit) ds)

/-- The decimal digits of a number; zero has none. -/
def digitsOf (n : Nat) : List Nat :=
  (digitsOnto ((n.log2 / 3 + 1).log2 + 1) n []).dropWhile (· = 0)

/-- A decimal fraction without zeros at its end. -/
def trim (digits : List Nat) (point : Int) : Decimal :=
  ⟨(digits.reverse.dropWhile (· = 0)).reverse, point⟩

/-- The digits of `units * 2 ^ exponent`. -/
def ofUnits (units : Nat) (exponent : Int) : Decimal :=
  let digits := digitsOf (if exponent < 0 then units * Nat.pow 5 (-exponent).toNat
    else units <<< exponent.toNat)
  trim digits (digits.length + min 0 exponent)

/-! ## Fewer digits -/

/-- The first `n` digits. -/
def down (n : Nat) (d : Decimal) : Decimal :=
  trim (d.digits.take n) d.point

/-- The first `n` digits with the last of them raised by one. -/
def up (n : Nat) (d : Decimal) : Decimal :=
  match (d.digits.take n).reverse.dropWhile (· = 9) with
  | [] => ⟨[1], d.point + 1⟩
  | last :: before => ⟨((last + 1) :: before).reverse, d.point⟩

/-- The nearest fraction with `n` digits; halfway the last digit becomes even. -/
def nearest (n : Nat) (d : Decimal) : Decimal :=
  match d.digits.drop n with
  | [] => d
  | [5] => if (d.digits.take n).getLast?.any (· % 2 = 1) then d.up n else d.down n
  | c :: _ => if 5 ≤ c then d.up n else d.down n

/-- The ways to cut off digits. -/
inductive Cut where
  | nearest
  | down
  | up
  deriving DecidableEq, Repr, Inhabited

/-- After how many digits to cut off, and how. The lists are the digits of a fraction and of the
ends of the interval below and above it, from the same place on, and `n` digits are before them;
`closed` tells whether the ends belong to the interval. -/
def cut? (closed : Bool) (n : Nat) : List Nat → List Nat → List Nat → Option (Nat × Cut)
  | [], _, _ => none
  | c :: cs, below, above =>
    let l := below.headD 0
    let u := above.headD 0
    let mayDown := l ≠ c || (closed && !below.isEmpty && below.tail.isEmpty)
    let mayUp := c ≠ u && (closed || c + 1 < u || !above.tail.isEmpty)
    if mayDown && mayUp then some (n + 1, .nearest)
    else if mayDown then some (n + 1, .down)
    else if mayUp then some (n + 1, .up)
    else cut? closed (n + 1) cs below.tail above.tail

/-- A fraction cut off. -/
def cut (d : Decimal) : Option (Nat × Cut) → Decimal
  | none => d
  | some (n, .nearest) => d.nearest n
  | some (n, .down) => d.down n
  | some (n, .up) => d.up n

/-- The fewest digits that tell `units * 2 ^ exponent` from its neighbours with `bits` binary
digits. Half the distance to them is the last digit of `bits + 1`. -/
def shortest (bits units : Nat) (exponent : Int) : Decimal :=
  let d := ofUnits units exponent
  let shift := bits + 1 - Magnitude.width units
  let halves := units <<< shift
  let place := exponent - shift
  let below := ofUnits (halves - 1) place
  let above := ofUnits (halves + 1) place
  d.cut (cut? (halves / 2 % 2 = 0) 0 d.digits below.digits above.digits)

/-! ## Writing -/

/-- The bytes of digits. -/
def bytes (digits : List Nat) : Text :=
  digits.map fun c => UInt8.ofNat (48 + c)

/-- A fraction with a point where it has one, and with a digit before it. -/
def text (d : Decimal) : Text :=
  let before := d.point.toNat
  let whole := d.digits.take before
  let fraction := List.replicate (-d.point).toNat 0 ++ d.digits.drop before
  let whole := if before = 0 then [0] else whole ++ List.replicate (before - whole.length) 0
  if d.digits.length ≤ before then bytes whole
  else bytes whole ++ 46 :: bytes fraction

end Decimal

end GridRobot
