import GridRobot.Board.Basic
import GridRobot.Duration

/-!
# The picture of a board

A board is drawn on a cleared screen: a line with the session clock, then a row of squares for
each row of cells. The robot hides the target when it stands on it.
-/

namespace GridRobot

namespace Board

/-- The letter for what stands at a position. -/
def mark (b : Board) (p : Position) : UInt8 :=
  if p = b.robot then 82
  else if p = b.target then 84
  else if b.cells.get? p = some .obstacle then 35
  else 46

/-- One row of the picture, each letter followed by a space. -/
def pictureRow (b : Board) (x : Nat) : Text :=
  (List.range b.size.toNatClampNeg).flatMap (fun y =>
    [b.mark ⟨Int64.ofNat x, Int64.ofNat y⟩, 32]) ++ [10]

/-- The control sequence that clears the screen. -/
def clearScreen : Text :=
  Text.ofString "\x1b[H\x1b[2J"

/-- The picture of a board with the session clock at a given time. -/
def picture (b : Board) (elapsed : Duration) : Text :=
  clearScreen ++ Text.ofString "Timer: " ++ Text.ofInt elapsed.wholeSeconds ++
    Text.ofString "s\n" ++ (List.range b.size.toNatClampNeg).flatMap b.pictureRow

end Board

end GridRobot
