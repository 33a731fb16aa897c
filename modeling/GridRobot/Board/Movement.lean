import GridRobot.Board.Basic
import GridRobot.Direction

/-!
# Moving and sensing

A move takes the robot a number of steps in one direction. Every cell on the way must be on the
board and free of obstacles; the first that is not stops the whole move, and the robot stays
where it was. The sensor tells in which of the four axis directions an obstacle stands right
next to the robot; the edge of the board is none.
-/

namespace GridRobot

/-- What stops a move. -/
inductive Blockage where
  /-- The way leads off the board. -/
  | outOfBounds
  /-- An obstacle is in the way. -/
  | collision
  deriving DecidableEq, Repr, Inhabited

namespace Board

/-- Where the way from a position ends after some steps in a direction. -/
def walk (b : Board) (d : Direction) : Nat → Position → Except Blockage Position
  | 0, p => .ok p
  | steps + 1, p =>
    let next := p.add d.delta
    if !b.inBounds next then .error .outOfBounds
    else if b.isObstacle next then .error .collision
    else b.walk d steps next

/-- The board after the robot has moved; a negative number of steps moves it nowhere. -/
def move (b : Board) (d : Direction) (steps : Int64) : Except Blockage Board :=
  (b.walk d steps.toNatClampNeg b.robot).map fun p => { b with robot := p }

/-- The axis directions in which an obstacle stands next to the robot. -/
def sense (b : Board) : DirectionSet :=
  Direction.axes.foldl (fun s d => if b.isObstacle (b.robot.add d.delta) then s.insert d else s)
    DirectionSet.empty

end Board

end GridRobot
