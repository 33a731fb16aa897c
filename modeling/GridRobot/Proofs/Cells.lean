import GridRobot.Board.Basic
import GridRobot.Direction
import Mathlib.Tactic.SplitIfs

/-!
# Cells of a grid

A position names a cell of a grid exactly if both coordinates lie below the side (`Grid.Has`), and
two positions never name the same cell (`slot?_inj`). From these two facts follows what reading
gives after a write (`get?_set`), on a filled grid (`get?_fill_eq_some_iff`) and on a changed one
(`get?_map`).

Each of the eight directions has an opposite, and a step in one is undone by a step in the other
(`add_delta_opposite`).
-/

namespace GridRobot

namespace Grid

variable {α β : Type} {g : Grid α} {p q : Position} {a b : α} {i : Nat}

/-- Whether a position names a cell of the grid. -/
def Has (g : Grid α) (p : Position) : Prop :=
  0 ≤ p.x.toInt ∧ p.x.toInt < g.side ∧ 0 ≤ p.y.toInt ∧ p.y.toInt < g.side

/-! ## Slots -/

theorem slot?_eq_some_iff :
    g.slot? p = some i ↔ g.Has p ∧ p.x.toInt.toNat * g.side + p.y.toInt.toNat = i := by
  simp only [slot?, Has, Option.ite_none_right_eq_some, Option.some.injEq]

theorem lt_size_of_slot? (h : g.slot? p = some i) : i < g.cells.size := by
  obtain ⟨⟨hx₀, hx, -, hy⟩, rfl⟩ := slot?_eq_some_iff.1 h
  have hx' : p.x.toInt.toNat + 1 ≤ g.side := by omega
  have hy' : p.y.toInt.toNat < g.side := by omega
  calc p.x.toInt.toNat * g.side + p.y.toInt.toNat
      < p.x.toInt.toNat * g.side + g.side := by omega
    _ = (p.x.toInt.toNat + 1) * g.side := by rw [Nat.add_mul, Nat.one_mul]
    _ ≤ g.side * g.side := Nat.mul_le_mul_right _ hx'
    _ = g.cells.size := g.size_cells.symm

/-- The row and the column of a cell are the quotient and the remainder of its slot. -/
theorem slot?_inj (hp : g.slot? p = some i) (hq : g.slot? q = some i) : p = q := by
  obtain ⟨⟨hpx, -, hpy, hpy'⟩, rfl⟩ := slot?_eq_some_iff.1 hp
  obtain ⟨⟨hqx, -, hqy, hqy'⟩, e⟩ := slot?_eq_some_iff.1 hq
  have hy : q.y.toInt.toNat = p.y.toInt.toNat := by
    have hmod := congrArg (· % g.side) e
    simp only [Nat.mul_add_mod_self_right] at hmod
    rwa [Nat.mod_eq_of_lt (by omega), Nat.mod_eq_of_lt (by omega)] at hmod
  have hx : q.x.toInt.toNat = p.x.toInt.toNat :=
    Nat.eq_of_mul_eq_mul_right (show 0 < g.side by omega) (by omega)
  have hx' : p.x = q.x := Int64.toInt_inj.1 (by omega)
  have hy' : p.y = q.y := Int64.toInt_inj.1 (by omega)
  cases p
  cases q
  simp_all

/-! ## Reading -/

theorem get?_of_slot? (h : g.slot? p = some i) : g.get? p = g.cells[i]? := by
  simp [get?, h]

theorem has_of_get? (h : g.get? p = some a) : g.Has p := by
  obtain ⟨i, hi, -⟩ := Option.bind_eq_some_iff.1 h
  exact (slot?_eq_some_iff.1 hi).1

theorem exists_get?_of_has (h : g.Has p) : ∃ a, g.get? p = some a := by
  have hi := slot?_eq_some_iff.2 ⟨h, rfl⟩
  exact ⟨_, (get?_of_slot? hi).trans (Array.getElem?_eq_getElem (lt_size_of_slot? hi))⟩

@[simp] theorem side_fill (n : Nat) (a : α) : (fill n a).side = n := rfl

@[simp] theorem side_set (g : Grid α) (p : Position) (a : α) : (g.set p a).side = g.side := by
  unfold set
  split <;> rfl

theorem slot?_set (g : Grid α) (p q : Position) (a : α) : (g.set p a).slot? q = g.slot? q := by
  simp [slot?]

theorem get?_fill_eq_some_iff {n : Nat} :
    (fill n a).get? p = some b ↔ (fill n a).Has p ∧ a = b := by
  constructor
  · intro h
    obtain ⟨i, hi, hc⟩ := Option.bind_eq_some_iff.1 h
    refine ⟨has_of_get? h, ?_⟩
    simp only [fill, Array.getElem?_replicate, Option.ite_none_right_eq_some,
      Option.some.injEq] at hc
    exact hc.2
  · rintro ⟨h, rfl⟩
    have hi := slot?_eq_some_iff.2 ⟨h, rfl⟩
    have hlt := lt_size_of_slot? hi
    rw [get?_of_slot? hi, Array.getElem?_eq_getElem hlt]
    simp [fill]

theorem get?_map (g : Grid α) (f : α → β) (p : Position) : (g.map f).get? p = (g.get? p).map f := by
  have hs : (g.map f).slot? p = g.slot? p := rfl
  unfold get?
  rw [hs]
  cases g.slot? p with
  | none => rfl
  | some i => simp [map]

/-- Writing a cell is seen at its own position and nowhere else. -/
theorem get?_set (g : Grid α) (p q : Position) (a : α) :
    (g.set p a).get? q = if q = p then (g.get? p).map fun _ => a else g.get? q := by
  rcases hp : g.slot? p with _ | i
  · have hset : g.set p a = g := by simp [set, hp]
    have hnone : g.get? p = none := by simp [get?, hp]
    rw [hset]
    split_ifs with e
    · rw [e, hnone]
      rfl
    · rfl
  · have hcells : (g.set p a).cells = g.cells.setIfInBounds i a := by simp [set, hp]
    have hlt := lt_size_of_slot? hp
    split_ifs with e
    · subst e
      rw [get?_of_slot? ((slot?_set g q q a).trans hp), hcells, get?_of_slot? hp]
      simp [hlt]
    · rcases hq : g.slot? q with _ | j
      · simp [get?, slot?_set, hq]
      · -- two positions never share a slot, so this one is not written
        have hne : i ≠ j := fun h => e (slot?_inj hq (h ▸ hp))
        rw [get?_of_slot? ((slot?_set g p q a).trans hq), hcells, get?_of_slot? hq]
        simp [Array.getElem?_setIfInBounds_ne hne]

end Grid

/-! ## Opposite directions -/

namespace Direction

/-- The direction that leads back. -/
def opposite : Direction → Direction
  | up => down
  | down => up
  | left => right
  | right => left
  | upLeft => downRight
  | upRight => downLeft
  | downLeft => upRight
  | downRight => upLeft

theorem mem_all (d : Direction) : d ∈ all := by
  cases d <;> decide

theorem add_delta_opposite (p : Position) (d : Direction) :
    (p.add d.delta).add d.opposite.delta = p := by
  cases p
  cases d <;> simp [Position.add, delta, opposite, Int64.add_assoc]

end Direction

theorem Position.within_iff {size : Int64} {p : Position} :
    p.within size = true ↔ 0 ≤ p.x.toInt ∧ p.x.toInt < size.toInt ∧
      0 ≤ p.y.toInt ∧ p.y.toInt < size.toInt := by
  simp [Position.within, Int64.le_iff_toInt_le, Int64.lt_iff_toInt_lt, and_assoc]

end GridRobot
