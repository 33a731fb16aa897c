import GridRobot.Proofs.Board

/-!
# Moves in parts, and the way back

A walk of `m + n` steps is a walk of `m` steps and then one of `n` (`walk_add`): where the first
part is stopped the whole is, in the same way, and else the second part decides. So a long move and
its two parts come to the same board or fail alike (`move_add`).

The way back goes over the cells of the way there in reverse, but for one: it ends on the cell where
the way there began, which no step had looked at. On a board in order that cell is free because the
robot stands on it, and so every move can be taken back (`Valid.move_opposite`).
-/

namespace GridRobot

namespace Board

variable {b c : Board} {d : Direction} {p q : Position} {m n : Nat}

/-! ## Walks -/

/-- Where a walk leads has nothing to do with where the robot is. -/
theorem SameGround.walk_eq (h : b.SameGround c) (d : Direction) (n : Nat) (p : Position) :
    c.walk d n p = b.walk d n p := by
  have hin (q : Position) : c.inBounds q = b.inBounds q := by rw [inBounds, inBounds, h.size_eq]
  have hobs (q : Position) : c.isObstacle q = b.isObstacle q := by
    rw [isObstacle, isObstacle, hin, h.cells_eq]
  induction n generalizing p with
  | zero => rfl
  | succ n ih => rw [walk, walk, hin, hobs, ih]

theorem walk_add (b : Board) (d : Direction) (m n : Nat) (p : Position) :
    b.walk d (m + n) p = b.walk d m p >>= b.walk d n := by
  induction m generalizing p with
  | zero =>
    rw [Nat.zero_add]
    rfl
  | succ m ih =>
    rw [Nat.succ_add, walk, walk]
    split_ifs
    · rfl
    · rfl
    · exact ih (p.add d.delta)

/-- A walk in the other direction ends where the first one started, if one can stand there. -/
theorem walk_opposite (hin : b.inBounds p = true) (hobs : b.isObstacle p = false)
    (h : b.walk d n p = .ok q) : b.walk d.opposite n q = .ok p := by
  induction n generalizing p with
  | zero =>
    cases h
    rfl
  | succ n ih =>
    rw [walk] at h
    split_ifs at h with hin' hobs'
    -- the last step back leads from the first cell of the way to its start
    have hback : b.walk d.opposite 1 (p.add d.delta) = .ok p := by
      simp [walk, Direction.add_delta_opposite, hin, hobs]
    rw [walk_add, ih (by simpa using hin') (by simpa using hobs') h]
    exact hback

/-! ## Moves -/

theorem move_add {m n : Int64} (hm : 0 ≤ m) (hn : 0 ≤ n)
    (hsum : m.toInt + n.toInt ≤ Int64.maxValue.toInt) (b : Board) (d : Direction) :
    b.move d (m + n) = b.move d m >>= fun a => a.move d n := by
  have hsteps : (m + n).toNatClampNeg = m.toNatClampNeg + n.toNatClampNeg := by
    rw [Int64.le_iff_toInt_le] at hm hn
    have hzero : (0 : Int64).toInt = 0 := rfl
    have hmax : Int64.maxValue.toInt = 9223372036854775807 := rfl
    have hadd : (m + n).toInt = m.toInt + n.toInt := by
      rw [Int64.toInt_add]
      exact Int.bmod_eq_of_le (by omega) (by omega)
    unfold Int64.toNatClampNeg
    omega
  rw [move, hsteps, walk_add, move]
  rcases b.walk d m.toNatClampNeg b.robot with e | q
  · rfl
  · have hground : b.SameGround { b with robot := q } := ⟨rfl, rfl, rfl, rfl⟩
    have hrest : { b with robot := q }.move d n =
        (b.walk d n.toNatClampNeg q).map fun p => { b with robot := p } := by
      rw [move, hground.walk_eq]
    exact hrest.symm

/-- Every move can be taken back. -/
theorem Valid.move_opposite {n : Int64} (hb : b.Valid) (h : b.move d n = .ok c) :
    c.move d.opposite n = .ok b := by
  obtain ⟨q, hwalk, rfl⟩ := move_eq_ok h
  have hback := walk_opposite hb.robot_inBounds (isObstacle_of_isFree hb.isFree_robot) hwalk
  rw [move, (sameGround_of_move h).walk_eq, hback]
  rfl

end Board

/-- A move of `m + n` steps succeeds exactly if a move of `m` steps does and one of `n` steps after
it, and both ways end in the same board; it fails as the first of the two that fails. A move that
succeeds is undone by as many steps in the opposite direction, which restore the board. -/
theorem moves_compose_and_undo {b : Board} (hb : b.Valid) (d : Direction) :
    (∀ m n : Int64, 0 ≤ m → 0 ≤ n → m.toInt + n.toInt ≤ Int64.maxValue.toInt →
      (∀ c, b.move d (m + n) = .ok c ↔ ∃ a, b.move d m = .ok a ∧ a.move d n = .ok c) ∧
      ∀ e, b.move d (m + n) = .error e ↔
        b.move d m = .error e ∨ ∃ a, b.move d m = .ok a ∧ a.move d n = .error e) ∧
    ∀ (n : Int64) c, b.move d n = .ok c → c.move d.opposite n = .ok b := by
  refine ⟨fun m n hm hn hsum => ?_, fun n c h => hb.move_opposite h⟩
  rw [Board.move_add hm hn hsum]
  rcases b.move d m with e | a
  · simp [bind, Except.bind]
  · simp [bind, Except.bind]

/-- A robot that goes along the edge of its board to a corner, in two parts and in one, and back. -/
theorem edge_walked_in_parts_and_back :
    ∃ b a c, Board.ofLayout ⟨4, ⟨0, 0⟩, ⟨3, 3⟩, [⟨1, 1⟩]⟩ = .ok b ∧
      b.move .right 1 = .ok a ∧ a.move .right 2 = .ok c ∧ b.move .right 3 = .ok c ∧
      c.robot = ⟨0, 3⟩ ∧ c.move .left 3 = .ok b ∧
      b.move .right Int64.maxValue = .error .outOfBounds := by
  have h : Board.ofLayout ⟨4, ⟨0, 0⟩, ⟨3, 3⟩, [⟨1, 1⟩]⟩ = .ok _ := rfl
  have hmoves := moves_compose_and_undo (Board.valid_of_ofLayout h) .right
  refine ⟨_, _, _, h, rfl, rfl, ?_, rfl, ?_, ?_⟩
  · exact ((hmoves.1 1 2 (by decide) (by decide) (by decide)).1 _).2 ⟨_, rfl, rfl⟩
  · exact hmoves.2 3 _ rfl
  · have hlongest : (4 : Int64) + (Int64.maxValue - 4) = Int64.maxValue := by decide
    rw [← hlongest]
    exact ((hmoves.1 4 _ (by decide) (by decide) (by decide)).2 _).2 (.inl rfl)

end GridRobot
