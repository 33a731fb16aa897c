import GridRobot.Board.Basic
import GridRobot.Direction

/-!
# Reaching the target

`Board.reachable` searches the board breadth first from the robot, one step in any of the eight
directions at a time. The search marks each cell when it first sees it, so that the cells not
yet seen together with those waiting in the queue become fewer with every round.
-/

namespace GridRobot

namespace Board

/-- A round of the search looks at one neighbour: an unseen one joins the queue and is marked. -/
def notice (s : List Position × Grid Bool) (p : Position) : List Position × Grid Bool :=
  if s.2.get? p = some true then (s.1 ++ [p], s.2.set p false) else s

/-- The unseen neighbours of a position, and what is left unseen after them. -/
def explore (p : Position) (unseen : Grid Bool) : List Position × Grid Bool :=
  (Direction.all.map fun d => p.add d.delta).foldl notice ([], unseen)

theorem length_add_count_notice (s : List Position × Grid Bool) (p : Position) :
    (notice s p).1.length + (notice s p).2.count id = s.1.length + s.2.count id := by
  unfold notice
  split
  · have := Grid.count_set (q := id) (b := false) ‹_› rfl rfl
    simp only [List.length_append, List.length_singleton]
    omega
  · rfl

theorem length_add_count_foldl_notice (ps : List Position) (s : List Position × Grid Bool) :
    (ps.foldl notice s).1.length + (ps.foldl notice s).2.count id =
      s.1.length + s.2.count id := by
  induction ps generalizing s with
  | nil => rfl
  | cons p ps ih => rw [List.foldl_cons, ih, length_add_count_notice]

theorem length_add_count_explore (p : Position) (unseen : Grid Bool) :
    (explore p unseen).1.length + (explore p unseen).2.count id = unseen.count id := by
  simp [explore, length_add_count_foldl_notice]

/-- Whether the search from the positions in the queue comes to the target. -/
def search (target : Position) : List Position → Grid Bool → Bool
  | [], _ => false
  | p :: queue, unseen =>
    if p = target then true
    else search target (queue ++ (explore p unseen).1) (explore p unseen).2
termination_by queue unseen => queue.length + unseen.count id
decreasing_by
  have := length_add_count_explore p unseen
  simp only [List.length_append, List.length_cons]
  omega

/-- The cells that a search from the robot has yet to see: the empty ones, without its own. -/
def unseenCells (b : Board) : Grid Bool :=
  (b.cells.map (· == .empty)).set b.robot false

/-- Whether the robot can reach the target by single steps onto free cells. -/
def reachable (b : Board) : Bool :=
  search b.target [b.robot] b.unseenCells

end Board

end GridRobot
