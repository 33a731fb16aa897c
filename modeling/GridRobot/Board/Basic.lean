import GridRobot.Grid

/-!
# Boards

A layout describes a board before it is built: its size, where the robot starts, the target and
the obstacles as they were listed. `Board.ofLayout` builds the board, or says what is wrong with
the layout. On a board the robot and the target stand on empty cells and each obstacle is listed
once, in the order of placement.
-/

namespace GridRobot

/-- What a square of the board holds. -/
inductive Cell where
  | empty
  | obstacle
  deriving DecidableEq, Repr, Inhabited

/-- The description of a board. -/
structure Layout where
  size : Int64
  robot : Position
  target : Position
  obstacles : List Position
  deriving DecidableEq, Repr, Inhabited

/-- What is wrong with a layout, or with the search for one. -/
inductive BoardError where
  | sizeNotPositive (size : Int64)
  | robotOutside (place : Position) (size : Int64)
  | targetOutside (place : Position) (size : Int64)
  | obstacleOutside (place : Position) (size : Int64)
  /-- An obstacle stands where the robot or the target is. -/
  | obstacleTaken (place : Position)
  /-- A board file gives no size. -/
  | missingSize
  /-- A board file gives no target. -/
  | missingTarget
  /-- None of the layouts that were drawn lets the robot reach the target. -/
  | noReachableLayout (obstacles : Int64) (attempts : Nat)
  deriving DecidableEq, Repr, Inhabited

namespace BoardError

/-- The part of a message that says which size a position does not fit. -/
def outside (what : String) (p : Position) (size : Int64) : Text :=
  Text.ofString what ++ p.text ++ Text.ofString " outside " ++ Text.ofInt64 size ++
    Text.ofString "x" ++ Text.ofInt64 size ++ Text.ofString " board"

/-- The reason in words. -/
def reason : BoardError → Text
  | sizeNotPositive size => Text.ofString "size must be positive, got " ++ Text.ofInt64 size
  | robotOutside p size => outside "robot " p size
  | targetOutside p size => outside "target " p size
  | obstacleOutside p size => outside "obstacle " p size
  | obstacleTaken p => Text.ofString "obstacle " ++ p.text ++ Text.ofString " on robot or target"
  | missingSize => Text.ofString "missing SIZE"
  | missingTarget => Text.ofString "missing TARGET"
  | noReachableLayout obstacles attempts =>
    Text.ofString "no reachable layout with " ++ Text.ofInt64 obstacles ++
      Text.ofString " obstacles after " ++ Text.ofNat attempts ++ Text.ofString " attempts"

/-- The message of a board error. -/
def message (e : BoardError) : Text :=
  Text.ofString "invalid board: " ++ e.reason

end BoardError

/-- Whether a position lies on a board of a given size. -/
def Position.within (size : Int64) (p : Position) : Bool :=
  0 ≤ p.x && p.x < size && 0 ≤ p.y && p.y < size

/-- A square board with a robot, a target and obstacles. -/
structure Board where
  size : Int64
  cells : Grid Cell
  obstacles : List Position
  robot : Position
  target : Position

namespace Board

/-- Whether a position lies on the board. -/
def inBounds (b : Board) (p : Position) : Bool :=
  p.within b.size

/-- Whether there is an obstacle at a position; there is none off the board. -/
def isObstacle (b : Board) (p : Position) : Bool :=
  b.inBounds p && b.cells.get? p == some .obstacle

/-- Whether the robot may stand at a position. -/
def isFree (b : Board) (p : Position) : Bool :=
  b.inBounds p && b.cells.get? p == some .empty

/-- Whether the robot stands on the target. -/
def atTarget (b : Board) : Bool :=
  b.robot == b.target

/-- The board with one more obstacle; an obstacle that is there already changes nothing. -/
def addObstacle (b : Board) (p : Position) : Except BoardError Board :=
  if !b.inBounds p then .error (.obstacleOutside p b.size)
  else if p == b.robot || p == b.target then .error (.obstacleTaken p)
  else if b.isObstacle p then .ok b
  else .ok { b with cells := b.cells.set p .obstacle, obstacles := b.obstacles ++ [p] }

/-- The board of a layout without its obstacles. -/
def bare (l : Layout) : Board :=
  { size := l.size
    cells := Grid.fill l.size.toNatClampNeg .empty
    obstacles := []
    robot := l.robot
    target := l.target }

/-- Builds the board that a layout describes. The faults of a layout are looked for in the order
size, robot, target, obstacles. -/
def ofLayout (l : Layout) : Except BoardError Board :=
  if l.size ≤ 0 then .error (.sizeNotPositive l.size)
  else if !l.robot.within l.size then .error (.robotOutside l.robot l.size)
  else if !l.target.within l.size then .error (.targetOutside l.target l.size)
  else l.obstacles.foldlM addObstacle (bare l)

/-- The layout that a board has now. -/
def layout (b : Board) : Layout :=
  ⟨b.size, b.robot, b.target, b.obstacles⟩

end Board

end GridRobot
