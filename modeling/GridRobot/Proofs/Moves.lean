import GridRobot.Proofs.Board
import Mathlib.Order.Nat
import Mathlib.Tactic.IntervalCases

/-!
# Moves in exact integers

A move goes over the cells ahead of the robot one by one, with a 64-bit counter and 64-bit
coordinates. Here the cells ahead are pairs of integers (`Position.cellAhead`), and what stops a
move at such a cell is said without the search for it (`Board.Stops`). The first cell that stops a
move decides how it fails (`Valid.walk_of_stops`), and if none does the robot gets to the last one
(`Valid.exists_walk_of_open`).

The loop itself is `Strides`, a run through its states with their wrapping counter. On a board a
robot can take fewer steps in a direction than the board has rows (`OnCourse.lt_size`). This is why
the loop ends whatever the number of steps it was asked for, and why nothing in it wraps around
(`OnCourse.next`, `exists_strides`).
-/

namespace GridRobot

/-! ## Straight lines -/

namespace Position

/-- The coordinates of a position as integers, which do not wrap around. -/
def coords (p : Position) : Int × Int :=
  (p.x.toInt, p.y.toInt)

/-- The cell a number of steps ahead of a position, in integers. -/
def cellAhead (p : Position) (d : Direction) (k : Int) : Int × Int :=
  (p.x.toInt + k * d.delta.dx.toInt, p.y.toInt + k * d.delta.dy.toInt)

/-- A position lies a number of steps ahead of another one in a direction. The coordinates are
integers here, which do not wrap around. -/
def Ahead (d : Direction) (k : Nat) (p q : Position) : Prop :=
  q.x.toInt = p.x.toInt + k * d.delta.dx.toInt ∧ q.y.toInt = p.y.toInt + k * d.delta.dy.toInt

variable {d : Direction} {j k : Nat} {p q r : Position}

theorem coords_injective : Function.Injective coords := by
  rintro ⟨x, y⟩ ⟨x', y'⟩ h
  obtain ⟨hx, hy⟩ := Prod.mk.inj h
  obtain rfl : x = x' := Int64.toInt_inj.1 hx
  obtain rfl : y = y' := Int64.toInt_inj.1 hy
  rfl

theorem ahead_iff : Ahead d k p q ↔ q.coords = p.cellAhead d k := by
  rw [Ahead, coords, cellAhead, Prod.mk.injEq]

theorem Ahead.refl (d : Direction) (p : Position) : Ahead d 0 p p := by
  simp [Ahead]

theorem Ahead.trans (hpq : Ahead d j p q) (hqr : Ahead d k q r) : Ahead d (j + k) p r := by
  obtain ⟨hx, hy⟩ := hpq
  obtain ⟨hx', hy'⟩ := hqr
  constructor
  · rw [hx', hx, Int.natCast_add, Int.add_mul, Int.add_assoc]
  · rw [hy', hy, Int.natCast_add, Int.add_mul, Int.add_assoc]

theorem Ahead.cellAhead_eq (hpq : Ahead d j p q) (k : Int) :
    q.cellAhead d k = p.cellAhead d (j + k) := by
  unfold cellAhead
  rw [hpq.1, hpq.2, Int.add_mul, Int.add_mul, Int.add_assoc, Int.add_assoc]

/-- No direction leads further than one row and one column, and none leads nowhere. -/
theorem delta_bounds (d : Direction) : -1 ≤ d.delta.dx.toInt ∧ d.delta.dx.toInt ≤ 1 ∧
    -1 ≤ d.delta.dy.toInt ∧ d.delta.dy.toInt ≤ 1 ∧
    (d.delta.dx.toInt = 1 ∨ d.delta.dx.toInt = -1 ∨ d.delta.dy.toInt = 1 ∨
      d.delta.dy.toInt = -1) := by
  cases d <;> decide

/-- On a board one step never wraps around. -/
theorem ahead_add_delta {size : Int64} (hp : p.within size = true) (d : Direction) :
    Ahead d 1 p (p.add d.delta) := by
  obtain ⟨hx, hx', hy, hy'⟩ := within_iff.1 hp
  have hsize := size.toInt_lt
  have hstep (a e : Int64) (ha : 0 ≤ a.toInt) (ha' : a.toInt < size.toInt) (he : -1 ≤ e.toInt)
      (he' : e.toInt ≤ 1) : (a + e).toInt = a.toInt + e.toInt := by
    rw [Int64.toInt_add]
    exact Int.bmod_eq_of_le (by omega) (by omega)
  obtain ⟨hdx, hdx', hdy, hdy', -⟩ := delta_bounds d
  constructor
  · rw [Int.natCast_one, Int.one_mul]
    exact hstep p.x d.delta.dx hx hx' hdx hdx'
  · rw [Int.natCast_one, Int.one_mul]
    exact hstep p.y d.delta.dy hy hy' hdy hdy'

/-- Two positions of a board are fewer steps apart than the board has rows. -/
theorem Ahead.lt_size {size : Int64} (hp : p.within size = true) (hq : q.within size = true)
    (hpq : Ahead d k p q) : (k : Int) < size.toInt := by
  obtain ⟨hx, hx', hy, hy'⟩ := within_iff.1 hp
  obtain ⟨hqx, hqx', hqy, hqy'⟩ := within_iff.1 hq
  obtain ⟨hdx, hdy⟩ := hpq
  obtain ⟨-, -, -, -, hunit | hunit | hunit | hunit⟩ := delta_bounds d
  · rw [hunit] at hdx
    omega
  · rw [hunit] at hdx
    omega
  · rw [hunit] at hdy
    omega
  · rw [hunit] at hdy
    omega

end Position

/-! ## Cells that stop a move -/

namespace Board

variable {b c : Board} {p q : Position} {d : Direction} {e : Blockage} {k m : Nat}

/-- A cell lies off the board. -/
def Off (b : Board) (cell : Int × Int) : Prop :=
  ¬ (0 ≤ cell.1 ∧ cell.1 < b.size.toInt ∧ 0 ≤ cell.2 ∧ cell.2 < b.size.toInt)

/-- A cell holds one of the obstacles. -/
def Taken (b : Board) (cell : Int × Int) : Prop :=
  ∃ p ∈ b.obstacles, p.coords = cell

/-- What stops a move at a cell. -/
def Stops (b : Board) (cell : Int × Int) : Blockage → Prop
  | .outOfBounds => b.Off cell
  | .collision => b.Taken cell

/-- A cell on the board without an obstacle. -/
def Open (b : Board) (cell : Int × Int) : Prop :=
  ¬ b.Off cell ∧ ¬ b.Taken cell

instance (b : Board) : DecidablePred b.Off := fun cell =>
  inferInstanceAs (Decidable (¬ (0 ≤ cell.1 ∧ _)))

instance (b : Board) : DecidablePred b.Taken := fun cell =>
  inferInstanceAs (Decidable (∃ p ∈ b.obstacles, p.coords = cell))

instance (b : Board) : DecidablePred b.Open := fun cell =>
  inferInstanceAs (Decidable (¬ b.Off cell ∧ ¬ b.Taken cell))

theorem inBounds_iff : b.inBounds p = true ↔ ¬ b.Off p.coords := by
  rw [Off, not_not]
  exact Position.within_iff

theorem Valid.isObstacle_iff (hb : b.Valid) : b.isObstacle p = true ↔ b.Taken p.coords := by
  rw [hb.isObstacle_iff_mem]
  constructor
  · intro hp
    exact ⟨p, hp, rfl⟩
  · rintro ⟨q, hq, hcoords⟩
    obtain rfl := Position.coords_injective hcoords
    exact hq

theorem Valid.not_off_of_taken (hb : b.Valid) {cell : Int × Int} (h : b.Taken cell) :
    ¬ b.Off cell := by
  obtain ⟨p, hp, rfl⟩ := h
  exact inBounds_iff.1 (Board.isObstacle_iff.1 (hb.isObstacle_iff.2 ⟨p, hp, rfl⟩)).1

/-! ## Walking over cells -/

theorem coords_add_delta (hp : b.inBounds p = true) (d : Direction) :
    (p.add d.delta).coords = p.cellAhead d 1 :=
  Position.ahead_iff.1 (Position.ahead_add_delta hp d)

/-- A step onto an open cell is taken. -/
theorem Valid.walk_of_open (hb : b.Valid) (hp : b.inBounds p = true)
    (hopen : b.Open (p.cellAhead d 1)) (m : Nat) :
    b.inBounds (p.add d.delta) = true ∧ b.walk d (m + 1) p = b.walk d m (p.add d.delta) := by
  rw [← coords_add_delta hp] at hopen
  have hin := inBounds_iff.2 hopen.1
  have hobs : b.isObstacle (p.add d.delta) = false :=
    Bool.eq_false_iff.2 fun h => hopen.2 (hb.isObstacle_iff.1 h)
  exact ⟨hin, by simp [walk, hin, hobs]⟩

/-- A step onto a cell that stops moves is not. -/
theorem Valid.walk_of_stop (hb : b.Valid) (hp : b.inBounds p = true)
    (hstop : b.Stops (p.cellAhead d 1) e) (m : Nat) : b.walk d (m + 1) p = .error e := by
  rw [← coords_add_delta hp] at hstop
  cases e with
  | outOfBounds =>
    have hin : b.inBounds (p.add d.delta) = false :=
      Bool.eq_false_iff.2 fun h => inBounds_iff.1 h hstop
    simp [walk, hin]
  | collision =>
    have hin := inBounds_iff.2 (hb.not_off_of_taken hstop)
    simp [walk, hin, hb.isObstacle_iff.2 hstop]

theorem Valid.exists_walk_of_open (hb : b.Valid) (hp : b.inBounds p = true)
    (hopen : ∀ k : Nat, 1 ≤ k → k ≤ m → b.Open (p.cellAhead d k)) :
    ∃ q, b.walk d m p = .ok q := by
  induction m generalizing p with
  | zero => exact ⟨p, rfl⟩
  | succ m ih =>
    obtain ⟨hin, hwalk⟩ := hb.walk_of_open hp (hopen 1 le_rfl (by omega)) m
    have hahead := Position.ahead_add_delta hp d
    rw [hwalk]
    refine ih hin fun k hk hkm => ?_
    rw [hahead.cellAhead_eq]
    exact_mod_cast hopen (1 + k) (by omega) (by omega)

/-- The first cell that stops a move decides how it fails. -/
theorem Valid.walk_of_stops (hb : b.Valid) (hp : b.inBounds p = true) (hk : k < m)
    (hopen : ∀ j : Nat, 1 ≤ j → j ≤ k → b.Open (p.cellAhead d j))
    (hstop : b.Stops (p.cellAhead d (k + 1)) e) : b.walk d m p = .error e := by
  obtain ⟨m, rfl⟩ : ∃ m', m = m' + 1 := ⟨m - 1, by omega⟩
  induction k generalizing m p with
  | zero => exact hb.walk_of_stop hp hstop m
  | succ k ih =>
    obtain ⟨hin, hwalk⟩ := hb.walk_of_open hp (hopen 1 le_rfl (by omega)) m
    have hahead := Position.ahead_add_delta hp d
    obtain ⟨m, rfl⟩ : ∃ m', m = m' + 1 := ⟨m - 1, by omega⟩
    rw [hwalk]
    refine ih hin (fun j hj hjk => ?_) ?_ m (by omega)
    · rw [hahead.cellAhead_eq]
      exact_mod_cast hopen (1 + j) (by omega) (by omega)
    · rw [hahead.cellAhead_eq]
      rwa [Int.natCast_add, Int.add_comm k, Int.natCast_one] at hstop

theorem ahead_of_walk (hp : b.inBounds p = true) (h : b.walk d m p = .ok q) : p.Ahead d m q := by
  induction m generalizing p with
  | zero =>
    cases h
    exact .refl d _
  | succ m ih =>
    rw [walk] at h
    split_ifs at h with hin hobs
    have hnext : b.inBounds (p.add d.delta) = true := by simpa using hin
    have hrest := (Position.ahead_add_delta hp d).trans (ih hnext h)
    rwa [Nat.add_comm 1 m] at hrest

/-- What a move on a board in order can do: nothing, or it takes the robot to a free cell straight
ahead. -/
theorem Valid.move_cases {steps : Int64} (hb : b.Valid) (h : b.move d steps = .ok c) :
    c = b ∨ ∃ k, 0 < k ∧ b.robot.Ahead d k c.robot ∧ b.isFree c.robot = true ∧
      c = { b with robot := c.robot } := by
  obtain ⟨q, hwalk, rfl⟩ := move_eq_ok h
  rcases Nat.eq_zero_or_pos steps.toNatClampNeg with hzero | hpos
  · rw [hzero] at hwalk
    cases hwalk
    exact .inl rfl
  · have hfree := (path_of_walk hb hwalk).isFree hb.isFree_robot
    exact .inr ⟨_, hpos, ahead_of_walk hb.robot_inBounds hwalk, hfree, rfl⟩

end Board

/-! ## The loop of a move -/

/-- The state of the loop of a move: the number of the step that comes next, and where the robot
would be. -/
structure Stride where
  step : Int64
  place : Position
  deriving DecidableEq, Repr

/-- One iteration of the loop. The counter wraps around like any 64-bit number. -/
def Stride.next (b : Board) (d : Direction) (s : Stride) : Except Blockage Stride :=
  let place := s.place.add d.delta
  if !b.inBounds place then .error .outOfBounds
  else if b.isObstacle place then .error .collision
  else .ok ⟨s.step + 1, place⟩

/-- The loop over steps up to `n`, from a state on: the states in which an iteration is entered, and
how the loop ends. -/
inductive Strides (b : Board) (d : Direction) (n : Int64) :
    Stride → List Stride → Except Blockage Stride → Prop where
  | done {s : Stride} (hdone : ¬ s.step ≤ n) : Strides b d n s [] (.ok s)
  | stop {s : Stride} {e : Blockage} (hstep : s.step ≤ n) (hnext : s.next b d = .error e) :
      Strides b d n s [s] (.error e)
  | go {s t : Stride} {entered : List Stride} {r : Except Blockage Stride} (hstep : s.step ≤ n)
      (hnext : s.next b d = .ok t) (hrest : Strides b d n t entered r) :
      Strides b d n s (s :: entered) r

/-- The loop has gone through a number of iterations, with everything in exact integers. -/
structure OnCourse (b : Board) (d : Direction) (i : Nat) (s : Stride) : Prop where
  step_eq : s.step.toInt = i + 1
  ahead : b.robot.Ahead d i s.place
  inBounds : b.inBounds s.place = true

section Strides

variable {b : Board} {d : Direction} {n : Int64} {i m : Nat} {s t : Stride}
  {entered entered' : List Stride} {r r' : Except Blockage Stride}

/-- An iteration that is stopped is stopped as a walk would be. -/
theorem Stride.walk_of_next_error {e : Blockage} (h : s.next b d = .error e) (m : Nat) :
    b.walk d (m + 1) s.place = .error e := by
  unfold next at h
  dsimp only at h
  rw [Board.walk]
  split_ifs at h ⊢
  · exact congrArg _ (Except.error.inj h)
  · exact congrArg _ (Except.error.inj h)

/-- An iteration that is completed is the first step of a walk. -/
theorem Stride.next_eq_ok (h : s.next b d = .ok t) :
    t = ⟨s.step + 1, s.place.add d.delta⟩ ∧ b.inBounds t.place = true ∧
      ∀ m, b.walk d (m + 1) s.place = b.walk d m t.place := by
  unfold next at h
  dsimp only at h
  split_ifs at h with hin hobs
  cases h
  refine ⟨rfl, by simpa using hin, fun m => ?_⟩
  rw [Board.walk, if_neg hin, if_neg hobs]

theorem onCourse_start (hb : b.Valid) (d : Direction) : OnCourse b d 0 ⟨1, b.robot⟩ where
  step_eq := rfl
  ahead := .refl d b.robot
  inBounds := hb.robot_inBounds

theorem OnCourse.lt_size (hs : OnCourse b d i s) (hb : b.Valid) : (i : Int) < b.size.toInt :=
  Position.Ahead.lt_size hb.robot_inBounds hs.inBounds hs.ahead

/-- The cell that an iteration looks at is the next one ahead, even if it is off the board. -/
theorem OnCourse.ahead_next (hs : OnCourse b d i s) :
    b.robot.Ahead d (i + 1) (s.place.add d.delta) :=
  hs.ahead.trans (Position.ahead_add_delta hs.inBounds d)

/-- An iteration that is completed leaves the loop on course. The counter does not wrap around since
the robot is still on the board. -/
theorem OnCourse.next (hs : OnCourse b d i s) (hb : b.Valid) (hnext : s.next b d = .ok t) :
    OnCourse b d (i + 1) t := by
  obtain ⟨rfl, hin, -⟩ := Stride.next_eq_ok hnext
  have hlt : ((i + 1 : Nat) : Int) < b.size.toInt :=
    Position.Ahead.lt_size hb.robot_inBounds hin hs.ahead_next
  refine ⟨?_, hs.ahead_next, hin⟩
  have hstep := hs.step_eq
  have hsize := b.size.toInt_lt
  have hone : (1 : Int64).toInt = 1 := rfl
  rw [Int64.toInt_add, hone, hstep, Int.bmod_eq_of_le (by omega) (by omega)]
  rfl

/-- The loop ends, after at most as many iterations as there are rows left on the board. -/
theorem exists_strides (hb : b.Valid) (n : Int64) (left : Nat) (hs : OnCourse b d i s)
    (hleft : b.size.toInt ≤ i + left) :
    ∃ entered r, Strides b d n s entered r ∧ entered.length ≤ left := by
  induction left generalizing i s with
  | zero =>
    have hlt := hs.lt_size hb
    omega
  | succ left ih =>
    by_cases hstep : s.step ≤ n
    · rcases hnext : s.next b d with e | t
      · exact ⟨[s], .error e, .stop hstep hnext, by simp⟩
      · obtain ⟨entered, r, hrest, hlength⟩ := ih (hs.next hb hnext) (by omega)
        exact ⟨s :: entered, r, .go hstep hnext hrest, by simpa using hlength⟩
    · exact ⟨[], .ok s, .done hstep, by simp⟩

theorem Strides.unique (h : Strides b d n s entered r) (h' : Strides b d n s entered' r') :
    entered' = entered ∧ r' = r := by
  induction h generalizing entered' r' with
  | done hdone =>
    cases h' with
    | done => exact ⟨rfl, rfl⟩
    | stop hstep => exact absurd hstep hdone
    | go hstep => exact absurd hstep hdone
  | stop hstep hnext =>
    cases h' with
    | done hdone => exact absurd hstep hdone
    | stop hstep' hnext' =>
      rw [hnext] at hnext'
      cases hnext'
      exact ⟨rfl, rfl⟩
    | go hstep' hnext' =>
      rw [hnext] at hnext'
      cases hnext'
  | go hstep hnext _ ih =>
    cases h' with
    | done hdone => exact absurd hstep hdone
    | stop hstep' hnext' =>
      rw [hnext] at hnext'
      cases hnext'
    | go hstep' hnext' hrest' =>
      rw [hnext] at hnext'
      cases hnext'
      obtain ⟨rfl, rfl⟩ := ih hrest'
      exact ⟨rfl, rfl⟩

/-- Everything the loop goes through is on course, and so is the state it ends in. -/
theorem Strides.onCourse (h : Strides b d n s entered r) (hb : b.Valid) (hs : OnCourse b d i s) :
    (∀ j t, entered[j]? = some t → OnCourse b d (i + j) t) ∧
      ∀ t, r = .ok t → OnCourse b d (i + entered.length) t := by
  induction h generalizing i with
  | done =>
    refine ⟨by simp, fun t ht => ?_⟩
    cases ht
    exact hs
  | stop =>
    refine ⟨fun j t ht => ?_, by simp⟩
    obtain ⟨rfl, rfl⟩ : j = 0 ∧ _ = t := by simpa [List.getElem?_singleton] using ht
    exact hs
  | go _ hnext _ ih =>
    obtain ⟨hentered, hend⟩ := ih (hs.next hb hnext)
    refine ⟨fun j t ht => ?_, fun t ht => ?_⟩
    · cases j with
      | zero =>
        obtain rfl : _ = t := by simpa using ht
        exact hs
      | succ j =>
        have hlater := hentered j t (by simpa using ht)
        rwa [Nat.add_assoc, Nat.add_comm 1 j] at hlater
    · have hlast := hend t ht
      rwa [Nat.add_assoc, Nat.add_comm 1] at hlast

/-- The loop is a walk over the steps that are left. -/
theorem Strides.walk_eq (h : Strides b d n s entered r) (hb : b.Valid) (hs : OnCourse b d i s) :
    b.walk d (n.toNatClampNeg - i) s.place = r.map Stride.place := by
  have hsteps : n.toNatClampNeg = n.toInt.toNat := rfl
  induction h generalizing i with
  | done hdone =>
    have hstep := hs.step_eq
    rw [Int64.le_iff_toInt_le] at hdone
    have hzero : n.toNatClampNeg - i = 0 := by omega
    rw [hzero]
    rfl
  | @stop s e hstep hnext =>
    have hstep' := hs.step_eq
    rw [Int64.le_iff_toInt_le] at hstep
    obtain ⟨m, hm⟩ : ∃ m, n.toNatClampNeg - i = m + 1 := ⟨n.toNatClampNeg - i - 1, by omega⟩
    rw [hm, Stride.walk_of_next_error hnext]
    rfl
  | @go s t entered r hstep hnext _ ih =>
    have hstep' := hs.step_eq
    rw [Int64.le_iff_toInt_le] at hstep
    have hm : n.toNatClampNeg - i = n.toNatClampNeg - (i + 1) + 1 := by omega
    rw [hm, (Stride.next_eq_ok hnext).2.2, ih (hs.next hb hnext)]

end Strides

namespace Board

variable {b : Board} {d : Direction} {n : Int64} {e : Blockage} {k : Nat}

theorem moved_of_ok {c : Board} (h : b.move d n = .ok c) : b.moved d n = c := by
  simp [moved, h]

theorem moved_of_error (h : b.move d n = .error e) : b.moved d n = b := by
  simp [moved, h]

theorem Valid.exists_move_of_open (hb : b.Valid)
    (hopen : ∀ k : Nat, 1 ≤ k → k ≤ n.toInt → b.Open (b.robot.cellAhead d k)) :
    ∃ q, q.coords = b.robot.cellAhead d (max n.toInt 0) ∧
      b.move d n = .ok { b with robot := q } := by
  have hsteps : (n.toNatClampNeg : Int) = max n.toInt 0 := Int.toNat_eq_max n.toInt
  obtain ⟨q, hwalk⟩ := hb.exists_walk_of_open (m := n.toNatClampNeg) hb.robot_inBounds
    fun k hk hkn => hopen k hk (by omega)
  have hahead := Position.ahead_iff.1 (ahead_of_walk hb.robot_inBounds hwalk)
  rw [hsteps] at hahead
  refine ⟨q, hahead, ?_⟩
  rw [move, hwalk]
  rfl

/-- The first cell ahead that is not open decides how a move fails. -/
theorem Valid.move_of_isLeast (hb : b.Valid)
    (hk : IsLeast {k : Nat | 1 ≤ k ∧ k ≤ n.toInt ∧ ¬ b.Open (b.robot.cellAhead d k)} k)
    (hstop : b.Stops (b.robot.cellAhead d k) e) : b.move d n = .error e := by
  obtain ⟨⟨hpos, hle, -⟩, hleast⟩ := hk
  have hsteps : n.toNatClampNeg = n.toInt.toNat := rfl
  obtain ⟨k, rfl⟩ : ∃ j, k = j + 1 := ⟨k - 1, by omega⟩
  have hopen (j : Nat) (hj : 1 ≤ j) (hjk : j ≤ k) : b.Open (b.robot.cellAhead d j) := by
    by_contra hclosed
    have hmin := hleast ⟨hj, by omega, hclosed⟩
    omega
  have hwalk := hb.walk_of_stops (m := n.toNatClampNeg) hb.robot_inBounds (by omega) hopen
    (by exact_mod_cast hstop)
  rw [move, hwalk]
  rfl

theorem stops_of_not_open {cell : Int × Int} (h : ¬ b.Open cell) : ∃ e, b.Stops cell e := by
  by_cases hoff : b.Off cell
  · exact ⟨.outOfBounds, hoff⟩
  · exact ⟨.collision, not_not.1 fun htaken => h ⟨hoff, htaken⟩⟩

end Board

end GridRobot
