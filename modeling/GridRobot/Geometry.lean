import GridRobot.Text.Basic

/-!
# Positions and displacements

A position is a pair of 64-bit coordinates, the row first, so that moving up lowers `x`. Adding
a displacement wraps around like the coordinates themselves; on a board no sum ever gets that
far.
-/

namespace GridRobot

/-- A displacement by rows and columns. -/
structure Delta where
  dx : Int64
  dy : Int64
  deriving DecidableEq, Repr, Inhabited

namespace Delta

/-- The sum of two displacements. -/
def plus (d e : Delta) : Delta :=
  ⟨d.dx + e.dx, d.dy + e.dy⟩

/-- A displacement taken `n` times. -/
def times (d : Delta) (n : Int64) : Delta :=
  ⟨d.dx * n, d.dy * n⟩

end Delta

/-- A place, by row and column. -/
structure Position where
  x : Int64
  y : Int64
  deriving DecidableEq, Repr, Inhabited

namespace Position

/-- The top left corner. -/
def origin : Position :=
  ⟨0, 0⟩

/-- The place that lies a displacement away. -/
def add (p : Position) (d : Delta) : Position :=
  ⟨p.x + d.dx, p.y + d.dy⟩

/-- A position as it is shown, `(x, y)`. -/
def text (p : Position) : Text :=
  Text.ofString "(" ++ Text.ofInt64 p.x ++ Text.ofString ", " ++ Text.ofInt64 p.y ++
    Text.ofString ")"

end Position

end GridRobot
