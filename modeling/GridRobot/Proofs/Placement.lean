import GridRobot.Proofs.Layouts
import Mathlib.Data.List.Nodup

/-!
# Boards as they are described

A layout that makes no board is refused for one of its faults (`Layout.Fault`), which the error
names: the loop that places the obstacles stops at one of them that is out of place
(`foldlM_addObstacle_eq_error`).

A board lists its obstacles without repeats, and so it is the same when it is built again from what
it shows of itself (`ofLayout_layout`).
-/

namespace GridRobot

theorem eraseDups_of_nodup {α : Type} [BEq α] [LawfulBEq α] {l : List α} (h : l.Nodup) :
    l.eraseDups = l := by
  induction l with
  | nil => rfl
  | cons a l ih =>
    rw [List.nodup_cons] at h
    have hkept : l.filter (fun b => !b == a) = l := by
      refine List.filter_eq_self.2 fun b hb => ?_
      have hne : b ≠ a := fun heq => h.1 (heq ▸ hb)
      simpa using hne
    rw [List.eraseDups_cons, hkept, ih h.2]

/-- What is wrong with a layout, by the error that says so. -/
inductive Layout.Fault (l : Layout) : BoardError → Prop where
  | size (hsize : l.size ≤ 0) : Fault l (.sizeNotPositive l.size)
  | robot (hrobot : l.robot.within l.size = false) : Fault l (.robotOutside l.robot l.size)
  | target (htarget : l.target.within l.size = false) : Fault l (.targetOutside l.target l.size)
  | outside {p : Position} (hp : p ∈ l.obstacles) (hout : p.within l.size = false) :
      Fault l (.obstacleOutside p l.size)
  | taken {p : Position} (hp : p ∈ l.obstacles) (htaken : p = l.robot ∨ p = l.target) :
      Fault l (.obstacleTaken p)

namespace Board

variable {b c : Board} {p : Position} {ps : List Position} {l : Layout} {e : BoardError}

/-- A board that is built again from its own layout is the same. -/
theorem ofLayout_layout (h : ofLayout l = .ok b) : ofLayout b.layout = .ok b := by
  obtain ⟨⟨hsize, hrobot, htarget⟩, hmem⟩ := ofLayout_spec h
  obtain ⟨c, hc, ⟨-, hrelisted⟩, -⟩ : ∃ c, ofLayout b.layout = .ok c ∧ _ :=
    ofLayout_relisted hsize hrobot htarget hmem h
  have hobstacles : c.obstacles = b.obstacles :=
    (ofLayout_eq_ok hc).2.trans
      (eraseDups_of_nodup (valid_of_ofLayout h).obstacles_nodup)
  rw [hobstacles] at hrelisted
  exact hc.trans (congrArg Except.ok hrelisted)

/-! ## Faults -/

theorem addObstacle_eq_error (h : b.addObstacle p = .error e) :
    (b.inBounds p = false ∧ e = .obstacleOutside p b.size) ∨
      ((p = b.robot ∨ p = b.target) ∧ e = .obstacleTaken p) := by
  unfold addObstacle at h
  split_ifs at h with hin htaken
  · exact .inl ⟨by simpa using hin, (Except.error.inj h).symm⟩
  · exact .inr ⟨by simpa using htaken, (Except.error.inj h).symm⟩

/-- The loop that places obstacles stops at one of them that is out of place. -/
theorem foldlM_addObstacle_eq_error (h : ps.foldlM addObstacle b = .error e) :
    ∃ p ∈ ps, (b.inBounds p = false ∧ e = .obstacleOutside p b.size) ∨
      ((p = b.robot ∨ p = b.target) ∧ e = .obstacleTaken p) := by
  induction ps generalizing b with
  | nil => cases h
  | cons p ps ih =>
    rw [List.foldlM_cons] at h
    rcases hp : b.addObstacle p with e' | b'
    · rw [hp] at h
      cases h
      exact ⟨p, List.mem_cons_self, addObstacle_eq_error hp⟩
    · rw [hp] at h
      obtain ⟨hsize, hrobot, htarget⟩ := addObstacle_frame hp
      obtain ⟨q, hq, hfault⟩ := ih h
      rw [inBounds, hsize, hrobot, htarget] at hfault
      exact ⟨q, List.mem_cons_of_mem p hq, hfault⟩

theorem fault_of_ofLayout (h : ofLayout l = .error e) : l.Fault e := by
  unfold ofLayout at h
  split_ifs at h with hsize hrobot htarget
  · cases h
    exact .size hsize
  · cases h
    exact .robot (by simpa using hrobot)
  · cases h
    exact .target (by simpa using htarget)
  · obtain ⟨p, hp, ⟨hout, rfl⟩ | ⟨htaken, rfl⟩⟩ := foldlM_addObstacle_eq_error h
    · exact .outside hp hout
    · exact .taken hp htaken

end Board

/-- A layout makes a board exactly if its size is positive, the robot and the target are within it,
and so are all listed obstacles, none of which is where the robot or the target is. Else the error
is of an invalid board and names a fault of the layout. The board has the size, the robot and the
target of the layout and lists the first mention of each obstacle, in order. There is an obstacle at
a position exactly if it is listed, and a position is free exactly if it is on the board and not
listed. Built again from what it shows of itself, the board is the same. -/
theorem board_as_described (l : Layout) :
    ((∃ b, Board.ofLayout l = .ok b) ↔ l.Sound) ∧
    (∀ e, Board.ofLayout l = .error e →
      l.Fault e ∧ Text.ofString "invalid board: " <+: e.message) ∧
    ∀ b, Board.ofLayout l = .ok b →
      (b.size = l.size ∧ b.robot = l.robot ∧ b.target = l.target) ∧
      b.obstacles = l.obstacles.eraseDups ∧
      (∀ p, b.isObstacle p = true ↔ p ∈ l.obstacles) ∧
      (∀ p, b.isFree p = true ↔ p.within l.size = true ∧ p ∉ l.obstacles) ∧
      Board.ofLayout b.layout = .ok b := by
  refine ⟨Board.exists_ofLayout_iff, fun e h => ?_, fun b h => ?_⟩
  · exact ⟨Board.fault_of_ofLayout h, List.prefix_append _ _⟩
  · have hb := Board.valid_of_ofLayout h
    obtain ⟨hframe, hmem⟩ := Board.ofLayout_spec h
    refine ⟨hframe, (Board.ofLayout_eq_ok h).2, fun p => ?_, fun p => ?_,
      Board.ofLayout_layout h⟩
    · rw [hb.isObstacle_iff_mem, hmem]
    · rw [hb.isFree_iff_notMem, hmem, Board.inBounds, hframe.1]

/-- An obstacle that is listed twice is placed once, where it was first listed. One on the target is
a fault even where it comes after a repeat. -/
theorem repeated_obstacle_placed_once :
    (∃ b, Board.ofLayout ⟨3, ⟨0, 0⟩, ⟨2, 2⟩, [⟨1, 1⟩, ⟨0, 2⟩, ⟨1, 1⟩]⟩ = .ok b ∧
      b.obstacles = [⟨1, 1⟩, ⟨0, 2⟩] ∧ b.isObstacle ⟨1, 1⟩ = true ∧
      b.isFree ⟨-1, 0⟩ = false ∧ Board.ofLayout b.layout = .ok b) ∧
    ∃ e, Board.ofLayout ⟨3, ⟨0, 0⟩, ⟨2, 2⟩, [⟨1, 1⟩, ⟨1, 1⟩, ⟨2, 2⟩]⟩ = .error e ∧
      Layout.Fault ⟨3, ⟨0, 0⟩, ⟨2, 2⟩, [⟨1, 1⟩, ⟨1, 1⟩, ⟨2, 2⟩]⟩ e := by
  constructor
  · have h : Board.ofLayout ⟨3, ⟨0, 0⟩, ⟨2, 2⟩, [⟨1, 1⟩, ⟨0, 2⟩, ⟨1, 1⟩]⟩ = .ok _ := rfl
    obtain ⟨-, hobstacles, hobstacle, hfree, hagain⟩ := (board_as_described _).2.2 _ h
    refine ⟨_, h, hobstacles.trans (by decide), (hobstacle _).2 (by decide), ?_, hagain⟩
    exact Bool.eq_false_iff.2 (mt (hfree _).1 (by decide))
  · have h : Board.ofLayout ⟨3, ⟨0, 0⟩, ⟨2, 2⟩, [⟨1, 1⟩, ⟨1, 1⟩, ⟨2, 2⟩]⟩ = .error _ := rfl
    exact ⟨_, h, ((board_as_described _).2.1 _ h).1⟩

end GridRobot
