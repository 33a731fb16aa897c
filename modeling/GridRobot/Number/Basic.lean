import GridRobot.Number.Decimal
import GridRobot.Text.Integer

/-!
# Numbers of a configuration file

A number has a sign, a magnitude, and a count of binary digits that there is room for. Zero has a
sign too. The result of an operation has room for as many digits as the operand with more, and it
is rounded to them. Arithmetic fails where it has no result, as for zero divided by zero.

`Number.read?` reads a number in decimal with an optional exponent, and `Number.text` writes the
fewest decimal digits that tell it from other numbers with the same room, without an exponent. Two
numbers are equal if they are written alike.
-/

namespace GridRobot

/-- A number with a sign and room for `bits` binary digits. -/
structure Number where
  negative : Bool
  magnitude : Magnitude
  bits : Nat
  deriving DecidableEq, Repr, Inhabited

namespace Number

/-- How many binary digits there is room for in a number that is read. -/
def readBits : Nat := 512

/-- How many binary digits there is room for in the number of an element. -/
def indexBits : Nat := 64

/-- A whole number. -/
def ofNat (n : Nat) : Number :=
  ⟨false, .round indexBits false n 0, indexBits⟩

/-- Whether a number is zero. -/
def isZero (a : Number) : Bool :=
  a.magnitude = .zero

/-- Whether a number is infinite. -/
def isInfinite (a : Number) : Bool :=
  a.magnitude = .infinite

/-- Whether a number is less than zero. -/
def isBelowZero (a : Number) : Bool :=
  a.negative && !a.isZero

/-- Whether a number is whole. -/
def isWhole (a : Number) : Bool :=
  a.magnitude.isWhole

/-! ## Arithmetic -/

/-- The number with the other sign. -/
def neg (a : Number) : Number :=
  { a with negative := !a.negative }

/-- The sum with room for so many digits, except that opposite infinities have none. Opposite
numbers add up to a zero without a sign. -/
def sumIn? (bits : Nat) (a b : Number) : Option Number :=
  if a.isInfinite && b.isInfinite then
    if a.negative = b.negative then some { a with bits } else none
  else if a.isZero && b.isZero then some ⟨a.negative && b.negative, .zero, bits⟩
  else if a.negative = b.negative then
    some ⟨a.negative, .add bits a.magnitude b.magnitude, bits⟩
  else if a.magnitude = b.magnitude then some ⟨false, .zero, bits⟩
  else
    let larger := if a.magnitude.less b.magnitude then b else a
    some ⟨larger.negative, .difference bits a.magnitude b.magnitude, bits⟩

/-- The sum, except that opposite infinities have none. -/
def add? (a b : Number) : Option Number :=
  sumIn? (max a.bits b.bits) a b

/-- The difference, except that like infinities have none. -/
def sub? (a b : Number) : Option Number :=
  add? a b.neg

/-- The product with room for so many digits, except that zero and infinity have none. -/
def productIn? (bits : Nat) (a b : Number) : Option Number :=
  if (a.isZero && b.isInfinite) || (a.isInfinite && b.isZero) then none
  else some ⟨a.negative != b.negative, .mul bits a.magnitude b.magnitude, bits⟩

/-- The product, except that zero and infinity have none. It has room for as many digits as it
needs, up to those of a number that is read. -/
def mul? (a b : Number) : Option Number :=
  (productIn? readBits a b).map fun p =>
    let needed := match p.magnitude with
      | .finite units _ => Magnitude.width units
      | .infinite => 0
    { p with bits := max (max a.bits b.bits) needed }

/-- The quotient, except that two zeros and two infinities have none. A number divided by zero is
infinite. -/
def div? (a b : Number) : Option Number :=
  if (a.isZero && b.isZero) || (a.isInfinite && b.isInfinite) then none
  else
    let bits := max a.bits b.bits
    some ⟨a.negative != b.negative, .div bits a.magnitude b.magnitude, bits⟩

/-- What is left after taking the divisor away as often as the whole part of the quotient says,
with each step rounded to the room of the dividend. Modulo zero a number is itself; where infinity
comes in otherwise there is no result. -/
def mod? (a b : Number) : Option Number :=
  if b.isZero then some a
  else do
    let q ← div? a b
    let whole ← q.magnitude.whole?
    let times : Number := ⟨q.negative && whole ≠ 0, .round a.bits false whole 0, a.bits⟩
    let taken ← productIn? a.bits b times
    sumIn? a.bits a taken.neg

/-! ## Comparing -/

/-- Whether the first number is less than the second. -/
def less (a b : Number) : Bool :=
  if a.isZero && b.isZero then false
  else if a.negative != b.negative then a.negative
  else if a.negative then b.magnitude.less a.magnitude
  else a.magnitude.less b.magnitude

/-- The 64-bit integer that a number is, if it is one. -/
def toInt64? (a : Number) : Option Int64 :=
  if a.isWhole then a.magnitude.whole?.bind (Text.signed? a.negative) else none

/-! ## Writing -/

/-- A number in decimal. -/
def text (a : Number) : Text :=
  match a.magnitude with
  | .infinite => Text.ofString (if a.negative then "-Inf" else "+Inf")
  | .finite 0 _ => Text.ofString (if a.negative then "-0" else "0")
  | .finite units exponent =>
    (if a.negative then [45] else []) ++ (Decimal.shortest a.bits units exponent).text

/-- Whether two numbers are equal: they are written alike, and the sign of zero does not
count. -/
def equal (a b : Number) : Bool :=
  if a.isZero || b.isZero then a.isZero && b.isZero
  else a.negative = b.negative && (a.magnitude = b.magnitude && a.bits = b.bits || a.text = b.text)

/-! ## Reading -/

/-- The base, sign and value of an exponent, which may be missing. It must fit in 64 bits. -/
def exponent? : Text → Option (Nat × Int)
  | [] => some (10, 0)
  | b :: t =>
    let base := if b = 101 || b = 69 then 10 else if b = 112 || b = 80 then 2 else 0
    let (negative, digits) := Text.splitSign t
    if base = 0 || digits.isEmpty || !digits.all Text.isDigit then none
    else (Text.signed? negative (Text.decimalValue digits)).map fun n => (base, n.toInt)

/-- The magnitude of `units` with `places` of them after the point, times a power of a base. There
is none if the power of two in it is out of range. Powers of five are not exact, but have more
digits than the result. -/
def scaled? (units places base : Nat) (exponent : Int) : Option Magnitude :=
  if units = 0 then some .zero
  else
    let twos := exponent - places
    let fives := (if base = 10 then exponent else 0) - places
    let top := twos + Magnitude.width units
    if top < Magnitude.minExponent || Magnitude.maxExponent < top then none
    else if fives = 0 then some (.round readBits false units twos)
    else
      let value := Magnitude.ofUnits units twos
      let power := Magnitude.powFive (readBits + 64) fives.natAbs
      some (if fives < 0 then .div readBits value power else .mul readBits value power)

/-- Reads a number without its sign. -/
def readUnsigned? (t : Text) : Option Magnitude :=
  let whole := t.takeWhile Text.isDigit
  let rest := t.dropWhile Text.isDigit
  let (fraction, rest) := match rest with
    | 46 :: rest => (rest.takeWhile Text.isDigit, rest.dropWhile Text.isDigit)
    | _ => ([], rest)
  let digits := whole ++ fraction
  if digits.isEmpty then none
  else (exponent? rest).bind fun (base, e) =>
    scaled? (Text.decimalValue digits) fraction.length base e

/-- Reads a number: an optional sign, digits with at most one point among them, and an optional
exponent of ten or, after a `p`, of two. -/
def read? (t : Text) : Option Number :=
  let (negative, t) := Text.splitSign t
  if t = Text.ofString "Inf" || t = Text.ofString "inf" then some ⟨negative, .infinite, readBits⟩
  else (readUnsigned? t).map fun m => ⟨negative, m, readBits⟩

end Number

end GridRobot
