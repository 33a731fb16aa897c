import GridRobot.Board.Movement
import GridRobot.Proofs.Cells
import Mathlib.Logic.Relation

/-!
# Boards in order

`Board.Valid` says what holds of every board that a layout gives: the grid of cells has the size
of the board, the robot and the target stand on empty cells, and the cells with an obstacle are
the listed ones, each listed once. `valid_of_ofLayout` follows the loop that places the obstacles.

A move changes nothing but the place of the robot (`sameGround_of_move`), and it leads along free
cells (`path_of_walk`), so that it keeps a board in order (`Valid.of_move`).
-/

namespace GridRobot

/-- One step in any direction onto a position of a set. -/
def StepOnto (ok : Position → Prop) (p q : Position) : Prop :=
  (∃ d : Direction, q = p.add d.delta) ∧ ok q

/-- A way by single steps onto positions of a set; where it starts does not matter. -/
abbrev Trail (ok : Position → Prop) : Position → Position → Prop :=
  Relation.ReflTransGen (StepOnto ok)

namespace Board

variable {b c : Board} {p q : Position} {d : Direction}

/-- Everything about a board is in order. -/
structure Valid (b : Board) : Prop where
  size_pos : 0 < b.size
  side_eq : (b.cells.side : Int) = b.size.toInt
  robot_inBounds : b.inBounds b.robot = true
  robot_empty : b.cells.get? b.robot = some .empty
  target_inBounds : b.inBounds b.target = true
  target_empty : b.cells.get? b.target = some .empty
  obstacles_nodup : b.obstacles.Nodup
  obstacle_iff : ∀ p, b.cells.get? p = some .obstacle ↔ p ∈ b.obstacles

/-- Two boards that differ at most in the place of the robot. -/
structure SameGround (b c : Board) : Prop where
  size_eq : c.size = b.size
  target_eq : c.target = b.target
  cells_eq : c.cells = b.cells
  obstacles_eq : c.obstacles = b.obstacles

theorem SameGround.refl (b : Board) : b.SameGround b := ⟨rfl, rfl, rfl, rfl⟩

theorem SameGround.trans {e : Board} (h : b.SameGround c) (k : c.SameGround e) : b.SameGround e :=
  ⟨k.size_eq.trans h.size_eq, k.target_eq.trans h.target_eq, k.cells_eq.trans h.cells_eq,
    k.obstacles_eq.trans h.obstacles_eq⟩

/-! ## Cells of a board -/

theorem isObstacle_iff : b.isObstacle p = true ↔
    b.inBounds p = true ∧ b.cells.get? p = some .obstacle := by
  simp [isObstacle]

theorem isFree_iff : b.isFree p = true ↔ b.inBounds p = true ∧ b.cells.get? p = some .empty := by
  simp [isFree]

theorem has_iff_inBounds (h : (b.cells.side : Int) = b.size.toInt) :
    b.cells.Has p ↔ b.inBounds p = true := by
  rw [inBounds, Position.within_iff, Grid.Has, h]

theorem Valid.isFree_iff (h : b.Valid) : b.isFree p = true ↔ b.cells.get? p = some .empty := by
  rw [Board.isFree_iff, and_iff_right_iff_imp]
  exact fun he => (has_iff_inBounds h.side_eq).1 (Grid.has_of_get? he)

theorem Valid.isFree_robot (h : b.Valid) : b.isFree b.robot = true :=
  Board.isFree_iff.2 ⟨h.robot_inBounds, h.robot_empty⟩

theorem Valid.isFree_of_not_isObstacle (h : b.Valid) (hp : b.inBounds p = true)
    (ho : b.isObstacle p = false) : b.isFree p = true := by
  obtain ⟨a, ha⟩ := Grid.exists_get?_of_has ((has_iff_inBounds h.side_eq).2 hp)
  cases a with
  | empty => exact Board.isFree_iff.2 ⟨hp, ha⟩
  | obstacle => rw [isObstacle_iff.2 ⟨hp, ha⟩] at ho; cases ho

theorem isObstacle_of_isFree (h : b.isFree p = true) : b.isObstacle p = false := by
  rw [Board.isFree_iff] at h
  simp [isObstacle, h.2]

theorem Valid.isObstacle_iff_mem (hb : b.Valid) : b.isObstacle p = true ↔ p ∈ b.obstacles := by
  rw [isObstacle_iff, hb.obstacle_iff, and_iff_right_iff_imp]
  intro hp
  exact (has_iff_inBounds hb.side_eq).1 (Grid.has_of_get? ((hb.obstacle_iff p).2 hp))

theorem Valid.isFree_iff_notMem (hb : b.Valid) :
    b.isFree p = true ↔ b.inBounds p = true ∧ p ∉ b.obstacles := by
  constructor
  · intro hfree
    refine ⟨(Board.isFree_iff.1 hfree).1, fun hp => ?_⟩
    rw [← hb.isObstacle_iff_mem, isObstacle_of_isFree hfree] at hp
    cases hp
  · rintro ⟨hin, hp⟩
    exact hb.isFree_of_not_isObstacle hin (Bool.eq_false_iff.2 (mt hb.isObstacle_iff_mem.1 hp))

/-! ## Building -/

theorem bare_valid {l : Layout} (hs : 0 < l.size) (hr : l.robot.within l.size = true)
    (ht : l.target.within l.size = true) : (bare l).Valid := by
  have hside : ((bare l).cells.side : Int) = (bare l).size.toInt := by
    have hpos : 0 < l.size.toInt := by simpa using Int64.lt_iff_toInt_lt.1 hs
    simp only [bare, Grid.side_fill, Int64.toNatClampNeg]
    omega
  refine ⟨hs, hside, hr, ?_, ht, ?_, List.nodup_nil, fun p => ?_⟩
  · exact Grid.get?_fill_eq_some_iff.2 ⟨(has_iff_inBounds hside).2 hr, rfl⟩
  · exact Grid.get?_fill_eq_some_iff.2 ⟨(has_iff_inBounds hside).2 ht, rfl⟩
  · simp [bare, Grid.get?_fill_eq_some_iff]

/-- What placing one obstacle can do: nothing, or one more cell is taken and listed. -/
theorem addObstacle_eq_ok (h : b.addObstacle p = .ok c) :
    (b.inBounds p = true ∧ p ≠ b.robot ∧ p ≠ b.target) ∧
      ((b.isObstacle p = true ∧ c = b) ∨ (b.isObstacle p = false ∧
        c = { b with cells := b.cells.set p .obstacle, obstacles := b.obstacles ++ [p] })) := by
  unfold addObstacle at h
  split_ifs at h with hin htaken hobs
  · simp only [Bool.not_eq_true, Bool.not_eq_false'] at hin
    simp_all
  · simp_all

theorem Valid.of_addObstacle (hb : b.Valid) (h : b.addObstacle p = .ok c) : c.Valid := by
  obtain ⟨⟨hin, hrobot, htarget⟩, ⟨-, rfl⟩ | ⟨hobs, rfl⟩⟩ := addObstacle_eq_ok h
  · exact hb
  have hfree := hb.isFree_of_not_isObstacle hin hobs
  have hempty : b.cells.get? p = some .empty := hb.isFree_iff.1 hfree
  -- the list holds exactly the cells that are taken, so a position on an empty one is new to it
  have hnew : p ∉ b.obstacles := (hb.isFree_iff_notMem.1 hfree).2
  refine ⟨hb.size_pos, ?_, hb.robot_inBounds, ?_, hb.target_inBounds, ?_, ?_, fun q => ?_⟩
  · simpa using hb.side_eq
  · simpa [Grid.get?_set, hrobot.symm] using hb.robot_empty
  · simpa [Grid.get?_set, htarget.symm] using hb.target_empty
  · refine List.nodup_append.2 ⟨hb.obstacles_nodup, by simp, ?_⟩
    rintro q hq r hr rfl
    exact hnew (List.mem_singleton.1 hr ▸ hq)
  · by_cases hq : q = p
    · simp [Grid.get?_set, hq, hempty]
    · simp [Grid.get?_set, hq, hb.obstacle_iff]

theorem Valid.of_foldlM_addObstacle {ps : List Position} (hb : b.Valid)
    (h : ps.foldlM addObstacle b = .ok c) : c.Valid := by
  induction ps generalizing b with
  | nil => cases h; exact hb
  | cons p ps ih =>
    rw [List.foldlM_cons] at h
    rcases hp : b.addObstacle p with e | b'
    · rw [hp] at h; cases h
    · rw [hp] at h
      exact ih (hb.of_addObstacle hp) h

/-- Every board that a layout gives is in order. -/
theorem valid_of_ofLayout {l : Layout} (h : ofLayout l = .ok b) : b.Valid := by
  unfold ofLayout at h
  split_ifs at h with hs hr ht
  have hs' : 0 < l.size := by
    rw [Int64.le_iff_toInt_le] at hs
    exact Int64.lt_iff_toInt_lt.2 (Int.not_le.1 hs)
  exact (bare_valid hs' (by simpa using hr) (by simpa using ht)).of_foldlM_addObstacle h

/-! ## Walking -/

/-- A way by single steps onto free cells. -/
abbrev Path (b : Board) : Position → Position → Prop :=
  Trail fun q => b.isFree q = true

theorem path_of_walk (hb : b.Valid) {n : Nat} (h : b.walk d n p = .ok q) : b.Path p q := by
  induction n generalizing p with
  | zero => cases h; exact .refl
  | succ n ih =>
    rw [walk] at h
    split_ifs at h with hin hobs
    have hfree := hb.isFree_of_not_isObstacle (by simpa using hin) (by simpa using hobs)
    exact .head ⟨⟨d, rfl⟩, hfree⟩ (ih h)

theorem walk_one (h : b.isFree (p.add d.delta) = true) : b.walk d 1 p = .ok (p.add d.delta) := by
  simp [walk, (isFree_iff.1 h).1, isObstacle_of_isFree h]

theorem Path.isFree (h : b.Path p q) (hp : b.isFree p = true) : b.isFree q = true := by
  rcases h.cases_tail with rfl | ⟨r, -, hs⟩
  · exact hp
  · exact hs.2

/-- What a move can do: the robot goes to the end of a walk, and all else stays. -/
theorem move_eq_ok {n : Int64} (h : b.move d n = .ok c) :
    ∃ q, b.walk d n.toNatClampNeg b.robot = .ok q ∧ c = { b with robot := q } := by
  unfold move at h
  rcases hw : b.walk d n.toNatClampNeg b.robot with e | q
  · rw [hw] at h; cases h
  · rw [hw] at h; cases h
    exact ⟨q, rfl, rfl⟩

/-- The board after an attempted move; one that is blocked leaves it as it was. -/
def moved (b : Board) (d : Direction) (n : Int64) : Board :=
  match b.move d n with
  | .ok c => c
  | .error _ => b

theorem move_one (h : b.isFree (b.robot.add d.delta) = true) :
    b.move d 1 = .ok { b with robot := b.robot.add d.delta } := by
  have hsteps : (1 : Int64).toNatClampNeg = 1 := by decide
  rw [move, hsteps, walk_one h]
  rfl

theorem sameGround_of_move {n : Int64} (h : b.move d n = .ok c) : b.SameGround c := by
  obtain ⟨q, -, rfl⟩ := move_eq_ok h
  exact ⟨rfl, rfl, rfl, rfl⟩

theorem path_of_move (hb : b.Valid) {n : Int64} (h : b.move d n = .ok c) :
    b.Path b.robot c.robot := by
  obtain ⟨q, hw, rfl⟩ := move_eq_ok h
  exact path_of_walk hb hw

theorem Valid.of_move (hb : b.Valid) {n : Int64} (h : b.move d n = .ok c) : c.Valid := by
  have hfree := (path_of_move hb h).isFree hb.isFree_robot
  obtain ⟨q, -, rfl⟩ := move_eq_ok h
  rw [Board.isFree_iff] at hfree
  exact { hb with robot_inBounds := hfree.1, robot_empty := hfree.2 }

end Board

end GridRobot
