/-!
# Rounding to significant binary digits

Some quantities are carried with a limited number of significant binary digits: fractions of a
duration and the session clock in seconds have 53 of them. `significant bits q` is the number
nearest to `q` with that many digits, where a tie goes to the even neighbour.
-/

namespace GridRobot

namespace Number

/-- The whole number nearest to `n / d`, the even one of two that are equally near. -/
def nearest (n d : Nat) : Nat :=
  let q := n / d
  let r := n % d
  if 2 * r < d then q
  else if d < 2 * r then q + 1
  else if q % 2 = 0 then q else q + 1

/-- The fraction `n / d` times a power of two, as a numerator and a denominator. -/
def scaled (n d : Nat) : Int → Nat × Nat
  | .ofNat k => (n <<< k, d)
  | .negSucc k => (n, d <<< (k + 1))

/-- How many binary places to keep of `n / d` so that `bits` significant digits remain. -/
def places (bits n d : Nat) : Int :=
  let guess : Int := (bits : Int) - 1 - (n.log2 : Int) + (d.log2 : Int)
  let (n', d') := scaled n d guess
  if n' < d' <<< (bits - 1) then guess + 1 else guess

/-- The number nearest to `n / d` with `bits` significant binary digits. -/
def significantRatio (bits n d : Nat) : Rat :=
  let s := places bits n d
  let (n', d') := scaled n d s
  let (num, den) := scaled (nearest n' d') 1 (-s)
  mkRat num den

/-- The number nearest to `q` with `bits` significant binary digits, ties going to even. -/
def significant (bits : Nat) (q : Rat) : Rat :=
  if q.num = 0 then 0
  else
    let r := significantRatio bits q.num.natAbs q.den
    if q.num < 0 then -r else r

/-- A number without its fraction. -/
def truncate (q : Rat) : Int :=
  Int.tdiv q.num q.den

end Number

end GridRobot
