import GridRobot.Text.Basic

/-!
# Integers in text

Scripts and board files write whole numbers with an optional sign. A script's literal is
decimal, whatever zeros it starts with (`readDecimal?`). In a board file a number that starts
with a zero is octal (`readNumeral`), and a number that cannot be read is reported with its
reason. Both must fit in 64 bits.
-/

namespace GridRobot

/-- Why a numeral has no value. -/
inductive NumeralError where
  /-- A character is no digit of the number's base. -/
  | malformed
  /-- The value does not fit in 64 bits. -/
  | outOfRange
  deriving DecidableEq, Repr

/-- The greatest magnitude of a 64-bit number, which only a negative one has. -/
abbrev maxMagnitude : Nat := 0x8000000000000000

namespace Text

/-- Splits off the sign of a numeral; `true` stands for a minus sign. -/
def splitSign : Text → Bool × Text
  | 43 :: t => (false, t)
  | 45 :: t => (true, t)
  | t => (false, t)

/-- The 64-bit number with a sign and a magnitude, if there is one. -/
def signed? (negative : Bool) (magnitude : Nat) : Option Int64 :=
  if negative then
    if magnitude ≤ maxMagnitude then some (Int64.ofInt (-magnitude)) else none
  else
    if magnitude < maxMagnitude then some (Int64.ofInt magnitude) else none

/-- The value of a sequence of decimal digits. -/
def decimalValue (digits : Text) : Nat :=
  digits.foldl (fun n b => 10 * n + digitValue b) 0

/-- The value of a decimal literal: an optional sign and at least one digit, within 64 bits. -/
def readDecimal? (t : Text) : Option Int64 :=
  let (negative, digits) := splitSign t
  if digits.isEmpty || !digits.all isDigit then none else signed? negative (decimalValue digits)

/-- Reads digits of a base after those that gave `n`, stopping at the first fault. -/
def readMagnitude (base n : Nat) : Text → Except NumeralError Nat
  | [] => .ok n
  | b :: t =>
    if !isDigit b || base ≤ digitValue b then .error .malformed
    else if UInt64.size ≤ n * base + digitValue b then .error .outOfRange
    else readMagnitude base (n * base + digitValue b) t

/-- The value of a numeral that is octal if its digits start with a zero and decimal otherwise. -/
def readNumeral (t : Text) : Except NumeralError Int64 := do
  let (negative, digits) := splitSign t
  let magnitude ← match digits with
    | [] => .error .malformed
    | 48 :: rest => readMagnitude 8 0 rest
    | _ => readMagnitude 10 0 digits
  match signed? negative magnitude with
  | some n => .ok n
  | none => .error .outOfRange

end Text

end GridRobot
