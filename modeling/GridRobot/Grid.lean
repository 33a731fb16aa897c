import GridRobot.Geometry

/-!
# Square grids

`Grid α` is a square of values, kept row by row in one array. Cells are named by positions, and
a position off the grid has no cell: reading there gives nothing and writing there changes
nothing. `Grid.count_set` says what writing one cell does to the number of cells with a
property, which is what bounds a search over the grid.
-/

namespace GridRobot

/-- A square of values, row by row. -/
structure Grid (α : Type) where
  side : Nat
  cells : Array α
  size_cells : cells.size = side * side

namespace Grid

variable {α : Type}

/-- The grid of a given side with the same value everywhere. -/
def fill (side : Nat) (a : α) : Grid α :=
  ⟨side, Array.replicate (side * side) a, by simp⟩

/-- The place of a position's cell in the array. -/
def slot? (g : Grid α) (p : Position) : Option Nat :=
  if 0 ≤ p.x.toInt ∧ p.x.toInt < g.side ∧ 0 ≤ p.y.toInt ∧ p.y.toInt < g.side then
    some (p.x.toInt.toNat * g.side + p.y.toInt.toNat)
  else none

/-- The value at a position. -/
def get? (g : Grid α) (p : Position) : Option α :=
  (g.slot? p).bind (g.cells[·]?)

/-- The grid with another value at a position. -/
def set (g : Grid α) (p : Position) (a : α) : Grid α :=
  match g.slot? p with
  | some i => ⟨g.side, g.cells.setIfInBounds i a, by simp [g.size_cells]⟩
  | none => g

/-- The grid with every value changed in the same way. -/
def map {β : Type} (g : Grid α) (f : α → β) : Grid β :=
  ⟨g.side, g.cells.map f, by simp [g.size_cells]⟩

/-- How many cells have a property. -/
def count (g : Grid α) (p : α → Bool) : Nat :=
  g.cells.countP p

/-- Overwriting a cell that has a property with a value that lacks it leaves one cell fewer. -/
theorem count_set {g : Grid α} {q : α → Bool} {p : Position} {a b : α} (h : g.get? p = some a)
    (ha : q a = true) (hb : q b = false) : (g.set p b).count q + 1 = g.count q := by
  unfold get? at h
  obtain ⟨i, hi, hc⟩ := Option.bind_eq_some_iff.1 h
  obtain ⟨hlt, rfl⟩ := Array.getElem?_eq_some_iff.1 hc
  have hpos : 0 < g.cells.countP q := Array.countP_pos_iff.2 ⟨_, Array.getElem_mem hlt, ha⟩
  have hset : (g.set p b).count q = (g.cells.set i b hlt).countP q := by
    simp [set, hi, count, Array.setIfInBounds, hlt]
  rw [hset, Array.countP_set hlt, count]
  simp [ha, hb]
  omega

end Grid

end GridRobot
