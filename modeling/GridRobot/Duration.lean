import GridRobot.Number.Significant
import GridRobot.Text.Integer

/-!
# Durations

A duration is a number of nanoseconds in 64 bits. It is written as a sequence of amounts with
units, such as `1h2m3.5s`, and read back from the same form; the units are `ns`, `us` (with
either sign for micro), `ms`, `s`, `m` and `h`. An amount may have a fraction, which is worked
out with 53 significant binary digits and cut off below the nanosecond.
-/

namespace GridRobot

/-- A length of time in nanoseconds. -/
structure Duration where
  nanoseconds : Int64
  deriving DecidableEq, Repr, Inhabited

/-- Why a text is no duration. -/
inductive DurationError where
  | invalid (whole : Text)
  | missingUnit (whole : Text)
  | unknownUnit (unit whole : Text)
  deriving DecidableEq, Repr, Inhabited

namespace DurationError

/-- A text between quotes, where every byte that is no printable ASCII stands as an escape. -/
def quote (t : Text) : Text :=
  34 :: t.flatMap (fun b =>
    if b < 32 || 128 ≤ b then Text.ofString "\\x" ++ Text.hex 2 b.toNat
    else if b = 34 || b = 92 then [92, b]
    else [b]) ++ [34]

/-- The message for a text that is no duration. -/
def message : DurationError → Text
  | invalid whole => Text.ofString "time: invalid duration " ++ quote whole
  | missingUnit whole => Text.ofString "time: missing unit in duration " ++ quote whole
  | unknownUnit unit whole =>
    Text.ofString "time: unknown unit " ++ quote unit ++ Text.ofString " in duration " ++
      quote whole

end DurationError

namespace Duration

/-- No time at all. -/
def zero : Duration :=
  ⟨0⟩

/-- One second. -/
def second : Duration :=
  ⟨1000000000⟩

/-! ## Reading -/

/-- The nanoseconds in one of a unit. -/
def unit? (name : Text) : Option Nat :=
  if name = Text.ofString "ns" then some 1
  else if name = Text.ofString "us" then some 1000
  else if name = [0xC2, 0xB5, 0x73] then some 1000
  else if name = [0xCE, 0xBC, 0x73] then some 1000
  else if name = Text.ofString "ms" then some 1000000
  else if name = Text.ofString "s" then some 1000000000
  else if name = Text.ofString "m" then some 60000000000
  else if name = Text.ofString "h" then some 3600000000000
  else none

/-- The digits of a fraction read so far: their value, the power of ten that they are divided
by, and whether further digits are passed over. -/
structure Fraction where
  value : Nat
  scale : Rat
  full : Bool

namespace Fraction

/-- Takes in one more digit, unless the value would leave 64 bits. -/
def push (f : Fraction) (b : UInt8) : Fraction :=
  let value := 10 * f.value + Text.digitValue b
  if f.full || maxMagnitude < value then { f with full := true }
  else { f with value := value, scale := Number.significant 53 (f.scale * 10) }

/-- The fraction that a sequence of digits after the point stands for. -/
def ofDigits (digits : Text) : Fraction :=
  digits.foldl push ⟨0, 1, false⟩

/-- The whole nanoseconds in a fraction of a unit. -/
def nanoseconds (f : Fraction) (unit : Nat) : Nat :=
  let perDigit := Number.significant 53 (unit / f.scale)
  let exact := Number.significant 53 (Number.significant 53 f.value * perDigit)
  (Number.truncate exact).toNat

end Fraction

/-- Reads one amount with its unit, and gives its nanoseconds and the rest of the text. -/
def readAmount (whole t : Text) : Except DurationError (Nat × Text) := do
  let digits := t.takeWhile Text.isDigit
  let t := t.dropWhile Text.isDigit
  if maxMagnitude < Text.decimalValue digits then throw (.invalid whole)
  let (decimals, t) := match t with
    | 46 :: t => (t.takeWhile Text.isDigit, t.dropWhile Text.isDigit)
    | t => ([], t)
  if digits.isEmpty && decimals.isEmpty then throw (.invalid whole)
  let name := t.takeWhile fun b => !(b == 46 || Text.isDigit b)
  let t := t.dropWhile fun b => !(b == 46 || Text.isDigit b)
  if name.isEmpty then throw (.missingUnit whole)
  match unit? name with
  | none => throw (.unknownUnit name whole)
  | some unit =>
    let units := Text.decimalValue digits
    if maxMagnitude / unit < units then throw (.invalid whole)
    let fraction := Fraction.ofDigits decimals
    let amount := units * unit + (if fraction.value = 0 then 0 else fraction.nanoseconds unit)
    if maxMagnitude < amount then throw (.invalid whole)
    return (amount, t)

/-- Reads the amounts of a duration one after the other onto a sum, which is kept in an unsigned
64-bit word. -/
def readAmounts (whole : Text) (sum : Nat) : Text → Except DurationError Nat
  | [] => .ok sum
  | b :: t =>
    if !(b == 46 || Text.isDigit b) then .error (.invalid whole)
    else
      match readAmount whole (b :: t) with
      | .error e => .error e
      | .ok (amount, rest) =>
        let sum := (sum + amount) % UInt64.size
        if maxMagnitude < sum then .error (.invalid whole)
        else if rest.length ≤ t.length then readAmounts whole sum rest
        else .error (.invalid whole)
termination_by t => t.length

/-- The duration that a text stands for: an optional sign, then `0` alone or amounts. -/
def read (whole : Text) : Except DurationError Duration := do
  let (negative, t) := Text.splitSign whole
  if t = [48] then return zero
  if t.isEmpty then throw (.invalid whole)
  let sum ← readAmounts whole 0 t
  if negative then return ⟨Int64.ofInt (-sum)⟩
  if maxMagnitude ≤ sum then throw (.invalid whole)
  return ⟨Int64.ofInt sum⟩

/-! ## Writing -/

/-- A number of `places` digits after the point, without trailing zeros and without a point where
nothing follows it. -/
def decimals (places n : Nat) : Text :=
  match places with
  | 0 => []
  | places + 1 =>
    let more := decimals places (n % Nat.pow 10 places)
    let first := n / Nat.pow 10 places % 10
    if first = 0 && more.isEmpty then [] else Text.digit first :: more

/-- `n` units in which one is worth `10 ^ places`. -/
def decimal (places n : Nat) : Text :=
  let fraction := decimals places (n % Nat.pow 10 places)
  Text.ofNat (n / Nat.pow 10 places) ++ (if fraction.isEmpty then [] else 46 :: fraction)

/-- The text of a length of time without its sign. Below a second one smaller unit is used;
otherwise hours and minutes are given where there are any. -/
def magnitude (n : Nat) : Text :=
  if n = 0 then Text.ofString "0s"
  else if n < 1000 then decimal 0 n ++ Text.ofString "ns"
  else if n < 1000000 then decimal 3 n ++ Text.ofString "µs"
  else if n < 1000000000 then decimal 6 n ++ Text.ofString "ms"
  else
    let minutes := n / 60000000000
    let seconds := decimal 9 (n % 60000000000) ++ Text.ofString "s"
    if minutes = 0 then seconds
    else if minutes < 60 then Text.ofNat minutes ++ Text.ofString "m" ++ seconds
    else
      Text.ofNat (minutes / 60) ++ Text.ofString "h" ++ Text.ofNat (minutes % 60) ++
        Text.ofString "m" ++ seconds

/-- A duration as text. -/
def text (d : Duration) : Text :=
  let n := d.nanoseconds.toInt
  if n < 0 then 45 :: magnitude n.natAbs else magnitude n.natAbs

/-- The whole seconds of a duration, counted on a clock with 53 significant binary digits. -/
def wholeSeconds (d : Duration) : Int :=
  let n := d.nanoseconds.toInt
  let fraction := Number.significant 53 (mkRat (Int.tmod n 1000000000) 1000000000)
  Number.truncate (Number.significant 53 (Int.tdiv n 1000000000 + fraction))

end Duration

end GridRobot
