import GridRobot.Text.Ranges
import GridRobot.Text.Utf8

/-!
# Forms

The first byte of a character tells how many bytes there are after it. A form is a first byte with
that many bytes, whether or not these continue a character. It is proper if they do; a proper form
may still be overlong, a surrogate or above the last character.

A class of characters is given by ranges of code points. In the order of bytes, characters come in
the order of their code points, and every other form comes between two characters that follow each
other. A form belongs to a range if it lies between the ends of the range in this order. So a form
that is no character belongs to the range that goes across its place, and to none where one range
ends and the next begins.
-/

namespace GridRobot

/-- A first byte with as many bytes after it as it asks for. -/
structure Form where
  /-- How many bytes there are after the first. -/
  more : Nat
  /-- The bytes as one number, the first of them the highest. -/
  number : Nat
  /-- Whether all bytes after the first are continuation bytes. -/
  proper : Bool
  deriving DecidableEq, Repr, Inhabited

namespace Form

/-- Bytes as one number, the first of them the highest. -/
def numberOf (t : Text) : Nat :=
  t.foldl (fun n b => n * 256 + b.toNat) 0

/-- How many bytes there are after a first byte. -/
def following? (b : UInt8) : Option Nat :=
  if b < 0x80 then some 0
  else if Text.within 0xC0 0xDF b then some 1
  else if Text.within 0xE0 0xEF b then some 2
  else if Text.within 0xF0 0xF7 b then some 3
  else none

/-- The form at the start of `b :: t`. -/
def first? (b : UInt8) (t : Text) : Option Form :=
  match following? b with
  | none => none
  | some n =>
    let rest := t.take n
    if rest.length = n then
      some ⟨n, numberOf (b :: rest), rest.all (Text.within 0x80 0xBF)⟩
    else none

/-- Whether a text consists of proper forms. -/
def allProper : Text → Bool
  | [] => true
  | b :: t =>
    match first? b t with
    | some f => f.proper && allProper (t.drop f.more)
    | none => false
termination_by t => t.length
decreasing_by simp only [List.length_cons, List.length_drop]; omega

/-! ## Ranges -/

/-- The number of the form of a character, given by its code point. -/
def numberAt (code : Nat) : Nat :=
  numberOf (Text.ofChar (Char.ofNat code))

/-- Ranges of code points, in order, as ranges of the numbers of forms. -/
def ranges (codes : List (Nat × Nat)) : Ranges :=
  .ofList (codes.map fun (lo, hi) => (numberAt lo, numberAt hi))

/-- Whether a form lies in one of some ranges of numbers. -/
def isIn (f : Form) (numbers : Ranges) : Bool :=
  numbers.contains f.number

end Form

end GridRobot
