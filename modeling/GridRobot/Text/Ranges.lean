/-!
# Ranges of numbers

A table of a character class is a list of ranges in order. `Ranges` holds such a list as a tree, so
that a number is found in it by halving.
-/

namespace GridRobot

/-- Ranges of numbers, those below a range to its left and those above it to its right. -/
inductive Ranges where
  | none
  | node (below : Ranges) (lo hi : Nat) (above : Ranges)
  deriving Repr, Inhabited

namespace Ranges

/-- Whether a number lies in one of the ranges. -/
def contains : Ranges → Nat → Bool
  | none, _ => false
  | node below lo hi above, n =>
    if n < lo then below.contains n
    else if hi < n then above.contains n
    else true

/-- The ranges of a list that is in order, halved at most so often. -/
def halved : Nat → List (Nat × Nat) → Ranges
  | 0, _ => none
  | depth + 1, rs =>
    let half := rs.length / 2
    match rs.drop half with
    | [] => none
    | (lo, hi) :: above => node (halved depth (rs.take half)) lo hi (halved depth above)

/-- The ranges of a list that is in order. -/
def ofList (rs : List (Nat × Nat)) : Ranges :=
  halved rs.length rs

end Ranges

end GridRobot
