import GridRobot.Board.Reach
import GridRobot.Random.Source

/-!
# Random layouts

A plan fixes the size of the board, the robot and the target, and how many obstacles to draw.
Cells are drawn row first; a draw that hits the robot, the target or an obstacle is lost, so that
there may be fewer obstacles than draws. A plan can insist that the target be reachable: then
whole layouts are drawn until one is, up to a hundred times. It is all the same what source the
random numbers come from.
-/

namespace GridRobot

/-- What a random layout has to look like. -/
structure RandomPlan where
  size : Int64
  obstacles : Int64
  robot : Position
  target : Position
  solvable : Bool
  deriving DecidableEq, Repr, Inhabited

namespace RandomPlan

variable {σ : Type} [RandomSource σ]

/-- How many layouts are drawn in search of a solvable one. -/
def maxAttempts : Nat := 100

/-- Draws a cell of a board of a given size, the row before the column. -/
def drawCell (size : Nat) (g : σ) : Position × σ :=
  let x := RandomSource.below g size
  let y := RandomSource.below x.2 size
  (⟨Int64.ofNat x.1, Int64.ofNat y.1⟩, y.2)

/-- Draws a number of cells and adds those that are still free to a list of obstacles. -/
def drawOnto (plan : RandomPlan) : Nat → List Position → σ → List Position × σ
  | 0, drawn, g => (drawn, g)
  | count + 1, drawn, g =>
    let cell := drawCell plan.size.toNatClampNeg g
    let p := cell.1
    if p = plan.robot ∨ p = plan.target ∨ p ∈ drawn then drawOnto plan count drawn cell.2
    else drawOnto plan count (drawn ++ [p]) cell.2

/-- Draws the obstacles of a layout; a board without cells has none. -/
def drawObstacles (plan : RandomPlan) (g : σ) : List Position × σ :=
  if plan.size ≤ 0 then ([], g) else plan.drawOnto plan.obstacles.toNatClampNeg [] g

/-- The layout of a plan with given obstacles. -/
def layout (plan : RandomPlan) (obstacles : List Position) : Layout :=
  ⟨plan.size, plan.robot, plan.target, obstacles⟩

/-- Draws layouts until one has a reachable target. -/
def drawSolvable (plan : RandomPlan) : Nat → σ → Except BoardError Layout × σ
  | 0, g => (.error (.noReachableLayout plan.obstacles maxAttempts), g)
  | attempts + 1, g =>
    let drawn := plan.drawObstacles g
    let l := plan.layout drawn.1
    match Board.ofLayout l with
    | .error e => (.error e, drawn.2)
    | .ok board => if board.reachable then (.ok l, drawn.2) else plan.drawSolvable attempts drawn.2

/-- Draws the next layout of a plan. -/
def draw (plan : RandomPlan) (g : σ) : Except BoardError Layout × σ :=
  if plan.solvable then plan.drawSolvable maxAttempts g
  else
    let drawn := plan.drawObstacles g
    (.ok (plan.layout drawn.1), drawn.2)

/-- The state of the source after a number of layouts have been drawn. -/
def after (plan : RandomPlan) (g : σ) : Nat → σ
  | 0 => g
  | n + 1 => plan.after (plan.draw g).2 n

end RandomPlan

end GridRobot
