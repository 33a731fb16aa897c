import GridRobot.Board.Picture
import GridRobot.Proofs.Moves
import GridRobot.Proofs.Reading
import Mathlib.Data.List.Nodup
import Mathlib.Data.List.ProdSigma

/-!
# Boards and their pictures

A picture is a line with the clock, followed by a line for each row of the board
(`Board.picture_eq`). No letter is a newline, so that it can be cut into its lines again
(`Board.splitOn_picture`) and the letters can be read off (`Board.rows_eq_of_picture`).

The letter of a cell tells what stands there (`Board.mark_eq_robot_iff` and the lemmas after it).
The robot hides the target, but a board in order has no obstacle where one of them stands, so that
nothing else is hidden. Each letter is there as often as there are cells for it
(`Board.count_rows`), and each stands at the coordinates of its cell (`Board.letterAt?_rows`), so
that boards with the same rows have the same letters everywhere (`Board.mark_eq_of_rows`).
-/

namespace GridRobot

namespace Board

variable {b c : Board} {p q : Position} {m : UInt8} {x y : Nat}

/-! ## Rows of letters -/

/-- How many rows and columns a board has. -/
def side (b : Board) : Nat :=
  b.size.toNatClampNeg

/-- The position in a row and a column. -/
def cell (x y : Nat) : Position :=
  ⟨Int64.ofNat x, Int64.ofNat y⟩

/-- The letters of a picture, row by row. -/
def rows (b : Board) : List (List UInt8) :=
  (List.range b.side).map fun x => (List.range b.side).map fun y => b.mark (cell x y)

/-- A row as it is written, each letter followed by a space. -/
def spaced (row : List UInt8) : Text :=
  row.flatMap fun m => [m, 32]

/-- The line above the rows, with the clock. -/
def timerLine (elapsed : Duration) : Text :=
  clearScreen ++ Text.ofString "Timer: " ++ Text.ofInt elapsed.wholeSeconds ++ Text.ofString "s"

theorem picture_eq (b : Board) (elapsed : Duration) : b.picture elapsed =
    timerLine elapsed ++ 10 :: b.rows.flatMap fun row => spaced row ++ [10] := by
  have hend : Text.ofString "s\n" = Text.ofString "s" ++ [10] := by decide
  have hrow (x : Nat) : b.pictureRow x =
      spaced ((List.range b.side).map fun y => b.mark (cell x y)) ++ [10] := by
    rw [pictureRow, spaced, List.flatMap_map]
    rfl
  have hrows : (List.range b.size.toNatClampNeg).flatMap b.pictureRow =
      b.rows.flatMap fun row => spaced row ++ [10] := by
    rw [rows, List.flatMap_map]
    exact List.flatMap_congr fun x _ => hrow x
  rw [picture, hend, hrows, timerLine]
  simp only [List.append_assoc, List.singleton_append]

theorem newline_notMem_timerLine (elapsed : Duration) : 10 ∉ timerLine elapsed := by
  have hseconds : 10 ∉ Text.ofInt elapsed.wholeSeconds :=
    Text.notMem_ofInt (by decide) (by decide) _
  have hleft : 10 ∉ clearScreen ++ Text.ofString "Timer: " := by decide
  have hright : 10 ∉ Text.ofString "s" := by decide
  rw [timerLine, List.mem_append, List.mem_append, not_or, not_or]
  exact ⟨⟨hleft, hseconds⟩, hright⟩

theorem mark_mem (b : Board) (p : Position) : b.mark p ∈ [82, 84, 35, 46] := by
  unfold mark
  split_ifs <;> decide

theorem mem_letters_of_mem_rows : ∀ row ∈ b.rows, ∀ m ∈ row, m ∈ [82, 84, 35, 46] := by
  intro row hrow m hm
  obtain ⟨x, -, rfl⟩ := List.mem_map.1 hrow
  obtain ⟨y, -, rfl⟩ := List.mem_map.1 hm
  exact b.mark_mem _

/-! ## Reading a picture -/

theorem newline_notMem_spaced {row : List UInt8} (hrow : ∀ m ∈ row, m ∈ [82, 84, 35, 46]) :
    10 ∉ spaced row := by
  intro h
  obtain ⟨m, hm, hmem⟩ := List.mem_flatMap.1 h
  have hne : ∀ m ∈ [82, 84, 35, 46], (10 : UInt8) ∉ [m, 32] := by decide +kernel
  exact hne m (hrow m hm) hmem

theorem spaced_injective : Function.Injective spaced := by
  intro row row' h
  induction row generalizing row' with
  | nil =>
    cases row' with
    | nil => rfl
    | cons m row' => cases h
  | cons m row ih =>
    cases row' with
    | nil => cases h
    | cons m' row' =>
      simp only [spaced, List.flatMap_cons, List.cons_append, List.nil_append, List.cons.injEq,
        true_and] at h
      rw [h.1, ih h.2]

/-- The lines of a picture: the one with the clock, the rows, and nothing after the last newline. -/
theorem splitOn_picture (b : Board) (elapsed : Duration) :
    (b.picture elapsed).splitOn 10 = timerLine elapsed :: (b.rows.map spaced ++ [[]]) := by
  rw [picture_eq, List.splitOn_append_cons_self_of_not_mem (newline_notMem_timerLine elapsed)]
  have hrows := b.mem_letters_of_mem_rows
  generalize b.rows = rows at hrows
  congr 1
  induction rows with
  | nil => rfl
  | cons row rows ih =>
    rw [List.forall_mem_cons] at hrows
    rw [List.flatMap_cons, List.append_assoc, List.singleton_append,
      List.splitOn_append_cons_self_of_not_mem (newline_notMem_spaced hrows.1), ih hrows.2]
    rfl

theorem rows_eq_of_picture {e e' : Duration} (h : b.picture e = c.picture e') :
    b.rows = c.rows := by
  have hlines := congrArg (List.splitOn 10) h
  rw [splitOn_picture, splitOn_picture, List.cons.injEq, List.append_left_inj] at hlines
  exact List.map_injective_iff.2 spaced_injective hlines.2

/-! ## Cells of a picture -/

theorem coords_cell (hx : x < b.side) (hy : y < b.side) : (cell x y).coords = (↑x, ↑y) := by
  have hsize := b.size.toInt_lt
  unfold side Int64.toNatClampNeg at hx hy
  rw [cell, Position.coords, Int64.toInt_ofNat_of_lt (by omega), Int64.toInt_ofNat_of_lt (by omega)]

theorem inBounds_iff_coords : b.inBounds p = true ↔
    ∃ x < b.side, ∃ y < b.side, p.coords = (↑x, ↑y) := by
  rw [inBounds, Position.within_iff, Position.coords, side, Int64.toNatClampNeg]
  constructor
  · rintro ⟨hx, hx', hy, hy'⟩
    refine ⟨p.x.toInt.toNat, by omega, p.y.toInt.toNat, by omega, ?_⟩
    rw [Int.toNat_of_nonneg hx, Int.toNat_of_nonneg hy]
  · rintro ⟨x, hx, y, hy, h⟩
    obtain ⟨hpx, hpy⟩ := Prod.mk.inj h
    omega

/-- The cells of a board, row by row. -/
def squares (b : Board) : List Position :=
  (List.range b.side ×ˢ List.range b.side).map fun c => cell c.1 c.2

theorem mem_squares : p ∈ b.squares ↔ b.inBounds p = true := by
  rw [squares, List.mem_map, inBounds_iff_coords]
  constructor
  · rintro ⟨⟨x, y⟩, hc, rfl⟩
    obtain ⟨hx, hy⟩ := List.mem_product.1 hc
    rw [List.mem_range] at hx hy
    exact ⟨x, hx, y, hy, coords_cell hx hy⟩
  · rintro ⟨x, hx, y, hy, h⟩
    refine ⟨(x, y), List.mem_product.2 ⟨List.mem_range.2 hx, List.mem_range.2 hy⟩, ?_⟩
    exact Position.coords_injective ((coords_cell hx hy).trans h.symm)

theorem nodup_squares (b : Board) : b.squares.Nodup := by
  refine List.Nodup.map_on ?_ (List.nodup_range.product List.nodup_range)
  rintro ⟨x, y⟩ hc ⟨x', y'⟩ hc' h
  obtain ⟨hx, hy⟩ := List.mem_product.1 hc
  obtain ⟨hx', hy'⟩ := List.mem_product.1 hc'
  rw [List.mem_range] at hx hy hx' hy'
  have hcoords := congrArg Position.coords h
  rw [coords_cell hx hy, coords_cell hx' hy', Prod.mk.injEq, Nat.cast_inj, Nat.cast_inj] at hcoords
  exact Prod.ext hcoords.1 hcoords.2

theorem flatten_rows (b : Board) : b.rows.flatten = b.squares.map b.mark := by
  rw [rows, ← List.flatMap_def, squares, List.map_map]
  change _ = List.map _ (List.flatMap _ _)
  rw [List.map_flatMap]
  simp only [List.map_map]
  rfl

/-- A letter is there as often as there are cells for it. -/
theorem count_rows {ps : List Position} (hps : ps.Nodup)
    (h : ∀ p, p ∈ ps ↔ b.inBounds p = true ∧ b.mark p = m) :
    b.rows.flatten.count m = ps.length := by
  have hperm : (b.squares.filter fun p => b.mark p == m).Perm ps := by
    rw [List.perm_ext_iff_of_nodup (b.nodup_squares.filter _) hps]
    intro p
    rw [List.mem_filter, mem_squares, h, beq_iff_eq]
  rw [flatten_rows, List.count, List.countP_map, List.countP_eq_length_filter]
  exact hperm.length_eq

/-- The letter in a row and a column of a picture. -/
def letterAt? (rows : List (List UInt8)) (x y : Nat) : Option UInt8 :=
  rows[x]?.bind (·[y]?)

/-- Each cell of the board has its letter at its coordinates, and there are no other letters. -/
theorem letterAt?_rows : letterAt? b.rows x y = some m ↔
    ∃ p, b.inBounds p = true ∧ p.coords = (↑x, ↑y) ∧ b.mark p = m := by
  have hcell : letterAt? b.rows x y = some m ↔
      x < b.side ∧ y < b.side ∧ b.mark (cell x y) = m := by
    simp [letterAt?, rows, Option.bind_eq_some_iff, List.getElem?_eq_some_iff]
  rw [hcell]
  constructor
  · rintro ⟨hx, hy, hm⟩
    exact ⟨cell x y, inBounds_iff_coords.2 ⟨x, hx, y, hy, coords_cell hx hy⟩, coords_cell hx hy, hm⟩
  · rintro ⟨p, hp, hxy, hm⟩
    obtain ⟨x', hx, y', hy, h⟩ := inBounds_iff_coords.1 hp
    rw [hxy, Prod.mk.injEq, Nat.cast_inj, Nat.cast_inj] at h
    obtain ⟨rfl, rfl⟩ := h
    refine ⟨hx, hy, ?_⟩
    rwa [Position.coords_injective ((coords_cell hx hy).trans hxy.symm)]

/-! ## Letters -/

theorem mark_eq_robot_iff : b.mark p = 82 ↔ p = b.robot := by
  unfold mark
  split_ifs with hrobot htarget hobstacle
  · exact iff_of_true rfl hrobot
  · exact iff_of_false (by decide) hrobot
  · exact iff_of_false (by decide) hrobot
  · exact iff_of_false (by decide) hrobot

theorem mark_eq_target_iff : b.mark p = 84 ↔ p = b.target ∧ p ≠ b.robot := by
  unfold mark
  split_ifs with hrobot htarget hobstacle
  · exact iff_of_false (by decide) fun h => h.2 hrobot
  · exact iff_of_true rfl ⟨htarget, hrobot⟩
  · exact iff_of_false (by decide) fun h => htarget h.1
  · exact iff_of_false (by decide) fun h => htarget h.1

theorem Valid.mark_eq_obstacle_iff (hb : b.Valid) : b.mark p = 35 ↔ p ∈ b.obstacles := by
  rw [← hb.obstacle_iff]
  unfold mark
  split_ifs with hrobot htarget hobstacle
  · simp [hrobot, hb.robot_empty]
  · simp [htarget, hb.target_empty]
  · simp [hobstacle]
  · simp [hobstacle]

theorem Valid.obstacle_inBounds (hb : b.Valid) (hp : p ∈ b.obstacles) : b.inBounds p = true :=
  (Board.isObstacle_iff.1 (hb.isObstacle_iff_mem.2 hp)).1

/-! ## What rows of letters show -/

/-- Rows of letters show a board: they are as many and as long as the board is wide, with `R` for
the robot, `T` for the target unless the robot stands on it, `#` for each obstacle, and dots. -/
structure Shows (b : Board) (rows : List (List UInt8)) : Prop where
  length_eq : (rows.length : Int) = b.size.toInt
  row_length_eq : ∀ row ∈ rows, (row.length : Int) = b.size.toInt
  letters : ∀ row ∈ rows, ∀ m ∈ row, m ∈ [82, 84, 35, 46]
  robot_iff : ∀ x y : Nat, letterAt? rows x y = some 82 ↔ b.robot.coords = (↑x, ↑y)
  target_iff : ∀ x y : Nat, letterAt? rows x y = some 84 ↔
    b.target.coords = (↑x, ↑y) ∧ b.target ≠ b.robot
  obstacle_iff : ∀ x y : Nat, letterAt? rows x y = some 35 ↔ b.Taken (↑x, ↑y)
  count_robot : rows.flatten.count 82 = 1
  count_target : rows.flatten.count 84 = if b.target = b.robot then 0 else 1
  count_obstacle : rows.flatten.count 35 = b.obstacles.length

theorem Valid.cast_side (hb : b.Valid) : (b.side : Int) = b.size.toInt := by
  have hpos : 0 < b.size.toInt := Int64.lt_iff_toInt_lt.1 hb.size_pos
  rw [side, Int64.toNatClampNeg]
  omega

theorem Valid.count_target (hb : b.Valid) :
    b.rows.flatten.count 84 = if b.target = b.robot then 0 else 1 := by
  split_ifs with h
  · refine count_rows List.nodup_nil fun p => ?_
    rw [mark_eq_target_iff, h]
    simp
  · refine count_rows (List.nodup_singleton b.target) fun p => ?_
    rw [mark_eq_target_iff, List.mem_singleton]
    constructor
    · rintro rfl
      exact ⟨hb.target_inBounds, rfl, h⟩
    · exact fun hp => hp.2.1

theorem Valid.shows_rows (hb : b.Valid) : b.Shows b.rows where
  length_eq := by rw [rows, List.length_map, List.length_range, hb.cast_side]
  row_length_eq := by
    intro row hrow
    obtain ⟨x, -, rfl⟩ := List.mem_map.1 hrow
    rw [List.length_map, List.length_range, hb.cast_side]
  letters := mem_letters_of_mem_rows
  robot_iff := by
    intro x y
    simp only [letterAt?_rows, mark_eq_robot_iff]
    constructor
    · rintro ⟨p, -, hxy, rfl⟩
      exact hxy
    · exact fun hxy => ⟨_, hb.robot_inBounds, hxy, rfl⟩
  target_iff := by
    intro x y
    simp only [letterAt?_rows, mark_eq_target_iff]
    constructor
    · rintro ⟨p, -, hxy, rfl, hne⟩
      exact ⟨hxy, hne⟩
    · rintro ⟨hxy, hne⟩
      exact ⟨_, hb.target_inBounds, hxy, rfl, hne⟩
  obstacle_iff := by
    intro x y
    simp only [letterAt?_rows, hb.mark_eq_obstacle_iff]
    constructor
    · rintro ⟨p, -, hxy, hp⟩
      exact ⟨p, hp, hxy⟩
    · rintro ⟨p, hp, hxy⟩
      exact ⟨p, hb.obstacle_inBounds hp, hxy, hp⟩
  count_robot := by
    refine count_rows (List.nodup_singleton b.robot) fun p => ?_
    rw [mark_eq_robot_iff, List.mem_singleton, iff_and_self]
    rintro rfl
    exact hb.robot_inBounds
  count_target := hb.count_target
  count_obstacle := by
    refine count_rows hb.obstacles_nodup fun p => ?_
    rw [hb.mark_eq_obstacle_iff, iff_and_self]
    exact hb.obstacle_inBounds

/-! ## Reading a board off its rows -/

theorem Valid.size_eq_of_rows (hb : b.Valid) (hc : c.Valid) (h : b.rows = c.rows) :
    c.size = b.size := by
  rw [← Int64.toInt_inj, ← hc.shows_rows.length_eq, ← hb.shows_rows.length_eq, h]

theorem mark_eq_of_rows (h : b.rows = c.rows) (hp : b.inBounds p = true) :
    c.mark p = b.mark p := by
  obtain ⟨x, -, y, -, hxy⟩ := inBounds_iff_coords.1 hp
  have hletter : letterAt? b.rows x y = some (b.mark p) := letterAt?_rows.2 ⟨p, hp, hxy, rfl⟩
  rw [h] at hletter
  obtain ⟨q, -, hq, hmark⟩ := letterAt?_rows.1 hletter
  obtain rfl := Position.coords_injective (hq.trans hxy.symm)
  exact hmark

theorem Valid.robot_eq_of_rows (hb : b.Valid) (h : b.rows = c.rows) : b.robot = c.robot :=
  mark_eq_robot_iff.1 ((mark_eq_of_rows h hb.robot_inBounds).trans (mark_eq_robot_iff.2 rfl))

theorem Valid.target_eq_of_rows (hb : b.Valid) (h : b.rows = c.rows) (hne : b.target ≠ b.robot) :
    b.target = c.target :=
  (mark_eq_target_iff.1
    ((mark_eq_of_rows h hb.target_inBounds).trans (mark_eq_target_iff.2 ⟨rfl, hne⟩))).1

theorem Valid.mem_obstacles_of_rows (hb : b.Valid) (hc : c.Valid) (h : b.rows = c.rows)
    (hp : p ∈ b.obstacles) : p ∈ c.obstacles := by
  rw [← hc.mark_eq_obstacle_iff, mark_eq_of_rows h (hb.obstacle_inBounds hp)]
  exact hb.mark_eq_obstacle_iff.2 hp

end Board

/-- A picture determines the board, whatever the clock shows, up to the order of the obstacles.
Below the line with the clock there are the rows of the board, each letter at its coordinates. -/
theorem picture_determines_board {b : Board} (hb : b.Valid) :
    (∀ c : Board, c.Valid → ∀ e e' : Duration, b.picture e = c.picture e' →
      c.size = b.size ∧ c.robot = b.robot ∧ c.target = b.target ∧
        ∀ p, p ∈ c.obstacles ↔ p ∈ b.obstacles) ∧
    ∀ e : Duration, 10 ∉ Board.timerLine e ∧ ∃ rows, b.Shows rows ∧
      b.picture e =
        Board.timerLine e ++ 10 :: rows.flatMap fun row => Board.spaced row ++ [10] := by
  refine ⟨fun c hc e e' h => ?_, fun e => ?_⟩
  · have hrows := Board.rows_eq_of_picture h
    have hrobot := hb.robot_eq_of_rows hrows
    refine ⟨hb.size_eq_of_rows hc hrows, hrobot.symm, ?_, fun p =>
      ⟨hc.mem_obstacles_of_rows hb hrows.symm, hb.mem_obstacles_of_rows hc hrows⟩⟩
    -- the target is hidden only where the robot stands, and the robot is never hidden
    by_cases hhidden : b.target = b.robot
    · by_cases hhidden' : c.target = c.robot
      · rw [hhidden, hhidden', hrobot]
      · exact hc.target_eq_of_rows hrows.symm hhidden'
    · exact (hb.target_eq_of_rows hrows hhidden).symm
  · exact ⟨Board.newline_notMem_timerLine e, b.rows, hb.shows_rows, b.picture_eq e⟩

/-- Obstacles given in another order, and one of them twice, give the same picture in the same
second. -/
theorem same_picture_in_another_order :
    ∃ b c, Board.ofLayout ⟨3, ⟨0, 1⟩, ⟨2, 2⟩, [⟨1, 0⟩, ⟨0, 2⟩]⟩ = .ok b ∧
      Board.ofLayout ⟨3, ⟨0, 1⟩, ⟨2, 2⟩, [⟨0, 2⟩, ⟨1, 0⟩, ⟨0, 2⟩]⟩ = .ok c ∧
      b.obstacles ≠ c.obstacles ∧
      b.picture ⟨5000000000⟩ = c.picture ⟨5300000000⟩ ∧
      (∀ p, p ∈ c.obstacles ↔ p ∈ b.obstacles) ∧ ∃ rows, b.Shows rows := by
  have hb : Board.ofLayout ⟨3, ⟨0, 1⟩, ⟨2, 2⟩, [⟨1, 0⟩, ⟨0, 2⟩]⟩ = .ok _ := rfl
  have hc : Board.ofLayout ⟨3, ⟨0, 1⟩, ⟨2, 2⟩, [⟨0, 2⟩, ⟨1, 0⟩, ⟨0, 2⟩]⟩ = .ok _ := rfl
  refine ⟨_, _, hb, hc, by decide, by decide +kernel, ?_⟩
  obtain ⟨hsame, hshown⟩ := picture_determines_board (Board.valid_of_ofLayout hb)
  obtain ⟨-, -, -, hobstacles⟩ :=
    hsame _ (Board.valid_of_ofLayout hc) ⟨5000000000⟩ ⟨5300000000⟩ (by decide +kernel)
  obtain ⟨-, rows, hrows, -⟩ := hshown ⟨5000000000⟩
  exact ⟨hobstacles, rows, hrows⟩

end GridRobot
