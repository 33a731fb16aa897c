import GridRobot.Number.Basic

/-!
# Limits

Of a value that is not known, something may be known all the same: that it is not null, between
which numbers it lies, how a string begins, or how many elements there are. `Limits` hold this.
-/

namespace GridRobot

/-- Infinity with a sign. -/
def Number.infinity (negative : Bool) : Number :=
  ⟨negative, .infinite, Number.readBits⟩

namespace Config

/-- One end of a range of numbers. -/
structure Bound where
  number : Number
  /-- Whether the number itself is in the range. -/
  inclusive : Bool
  deriving DecidableEq, Repr

/-- A range of numbers. -/
structure NumberRange where
  low : Bound
  high : Bound
  deriving DecidableEq, Repr

namespace NumberRange

/-- All finite numbers. -/
def all : NumberRange :=
  ⟨⟨.infinity true, false⟩, ⟨.infinity false, false⟩⟩

/-- One number. -/
def only (n : Number) : NumberRange :=
  ⟨⟨n, true⟩, ⟨n, true⟩⟩

/-- Whether a number is in a range. -/
def contains (r : NumberRange) (n : Number) : Bool :=
  (r.low.number.less n || r.low.inclusive && r.low.number.equal n) &&
    (n.less r.high.number || r.high.inclusive && n.equal r.high.number)

/-- The number that alone is in a range, if there is one. -/
def only? (r : NumberRange) : Option Number :=
  if r.low.inclusive && r.high.inclusive && r.low.number.equal r.high.number then
    some r.low.number
  else none

/-- The end that reaches further, where `further` compares numbers. Of ends at one number the one
that includes it counts. -/
def outer (further : Number → Number → Bool) (a b : Bound) : Bound :=
  if further a.number b.number then a
  else if a.number.equal b.number then { b with inclusive := a.inclusive || b.inclusive }
  else b

/-- The smallest range around two others. -/
def around (r s : NumberRange) : NumberRange :=
  ⟨outer Number.less r.low s.low, outer (fun a b => b.less a) r.high s.high⟩

/-- Whether all numbers of one range are less than all of another, if that is so or the other way
round. The ends count as if the numbers there were not included. -/
def less? (r s : NumberRange) : Option Bool :=
  if r.high.number.less s.low.number then some true
  else if s.high.number.less r.low.number then some false
  else none

end NumberRange

/-- What is known of a value that is not known itself. -/
structure Limits where
  /-- Whether it is not null. -/
  present : Bool
  /-- Between which numbers it lies, unless nothing at all is known. -/
  range : Option NumberRange
  /-- How a string begins. -/
  start : Text
  /-- How many elements there are at least. -/
  least : Nat
  /-- How many elements there are at most. -/
  most : Option Nat
  deriving DecidableEq, Repr

namespace Limits

/-- Nothing is known. -/
def none : Limits :=
  ⟨false, .none, [], 0, .none⟩

/-- Nothing is known but whether the value may be null. -/
def ofPresent (present : Bool) : Limits :=
  { none with present, range := if present then some .all else .none }

/-- So many elements. -/
def ofLength (present : Bool) (n : Nat) : Limits :=
  { ofPresent present with least := n, most := some n }

/-- How many elements there are, if that is known. -/
def length? (l : Limits) : Option Nat :=
  if l.most = some l.least then l.most else .none

/-- What is known of a value that has either of two limits. Nothing is known any more of how a
string begins. -/
def either (l m : Limits) : Limits where
  present := l.present && m.present
  range := some ((l.range.getD .all).around (m.range.getD .all))
  start := []
  least := min l.least m.least
  most := l.most.bind fun a => m.most.map (max a)

end Limits

end Config

end GridRobot
