import GridRobot.Proofs.Draws
import GridRobot.Proofs.Moves
import GridRobot.Proofs.Placement
import Mathlib.Data.Int.Interval
import Mathlib.Data.Set.Card

/-!
# Obstacles as they are drawn

The draws of a layout do not look at what they hit: a row and a column are drawn for each obstacle
that the plan asks for (`cellsDrawn`), and these cells depend on the size of the board and on the
source of the numbers only. What the plan makes of them is a plain list (`RandomPlan.kept`): the
cells where neither the robot nor the target is, without those that were drawn before. The loop of
the draws goes through that list one cell at a time (`kept_concat`), so that it ends with it
(`drawOnto_kept`).

Whatever holds of the obstacles of a drawn layout can be read off the list
(`obstacles_as_drawn`), for every source of random numbers.
-/

namespace GridRobot

variable {σ : Type} [RandomSource σ]

/-- A number of cells that are drawn one after the other, the row of each before its column, and the
source after them. -/
def cellsDrawn (size : Int64) : Nat → σ → List Position × σ
  | 0, g => ([], g)
  | count + 1, g =>
    let x := RandomSource.below g size.toNatClampNeg
    let y := RandomSource.below x.2 size.toNatClampNeg
    let rest := cellsDrawn size count y.2
    (⟨Int64.ofNat x.1, Int64.ofNat y.1⟩ :: rest.1, rest.2)

theorem length_cellsDrawn (size : Int64) (count : Nat) (g : σ) :
    (cellsDrawn size count g).1.length = count := by
  induction count generalizing g with
  | zero => rfl
  | succ count ih => rw [cellsDrawn, List.length_cons, ih]

/-- More draws go on where fewer of them end. -/
theorem cellsDrawn_add (size : Int64) (m n : Nat) (g : σ) :
    cellsDrawn size (m + n) g =
      ((cellsDrawn size m g).1 ++ (cellsDrawn size n (cellsDrawn size m g).2).1,
        (cellsDrawn size n (cellsDrawn size m g).2).2) := by
  induction m generalizing g with
  | zero => rw [Nat.zero_add]; rfl
  | succ m ih =>
    rw [Nat.add_right_comm, cellsDrawn, cellsDrawn, ih]
    rfl

namespace RandomPlan

variable {plan : RandomPlan} {p : Position} {ps qs : List Position}

/-- What a plan keeps of some cells: those where neither the robot nor the target is, each at its
first occurrence. -/
def kept (plan : RandomPlan) (ps : List Position) : List Position :=
  (ps.filter fun p => p ≠ plan.robot ∧ p ≠ plan.target).eraseDups

theorem mem_kept : p ∈ plan.kept ps ↔ p ∈ ps ∧ p ≠ plan.robot ∧ p ≠ plan.target := by
  simp [kept, List.mem_eraseDups]

theorem kept_prefix_append (plan : RandomPlan) (ps qs : List Position) :
    plan.kept ps <+: plan.kept (ps ++ qs) := by
  rw [kept, kept, List.filter_append, List.eraseDups_append]
  exact List.prefix_append _ _

/-- One more cell is lost, or it comes last. -/
theorem kept_concat (plan : RandomPlan) (ps : List Position) (p : Position) :
    plan.kept (ps ++ [p]) =
      if p = plan.robot ∨ p = plan.target ∨ p ∈ plan.kept ps then plan.kept ps
      else plan.kept ps ++ [p] := by
  by_cases hfree : p ≠ plan.robot ∧ p ≠ plan.target
  · have hfilter : (ps ++ [p]).filter (fun p => p ≠ plan.robot ∧ p ≠ plan.target) =
        ps.filter (fun p => p ≠ plan.robot ∧ p ≠ plan.target) ++ [p] := by
      simp [List.filter_append, hfree.1, hfree.2]
    rw [kept, hfilter, List.eraseDups_append, ← kept]
    by_cases hp : p ∈ ps
    · have hseen : p ∈ plan.kept ps := mem_kept.2 ⟨hp, hfree⟩
      simp [hseen, hp, hfree.1, hfree.2, List.removeAll]
    · have hnew : p ∉ plan.kept ps := fun hseen => hp (mem_kept.1 hseen).1
      simp [hnew, hp, hfree.1, hfree.2, List.removeAll, List.eraseDups_cons]
  · have hlost : p = plan.robot ∨ p = plan.target := by tauto
    have hfilter : (ps ++ [p]).filter (fun p => p ≠ plan.robot ∧ p ≠ plan.target) =
        ps.filter (fun p => p ≠ plan.robot ∧ p ≠ plan.target) := by
      simpa [List.filter_append] using hfree
    rw [if_pos (hlost.imp_right .inl), kept, hfilter, ← kept]

/-- What is kept has no repeats, and there is no more of it than was drawn. -/
theorem nodup_kept (plan : RandomPlan) (ps : List Position) :
    (plan.kept ps).Nodup ∧ (plan.kept ps).length ≤ ps.length := by
  induction ps using List.reverseRecOn with
  | nil => simp [kept]
  | append_singleton ps p ih =>
    rw [kept_concat, List.length_append, List.length_singleton]
    split_ifs with hp
    · exact ⟨ih.1, by omega⟩
    · simp only [not_or] at hp
      rw [← List.concat_eq_append, List.length_concat]
      exact ⟨ih.1.concat hp.2.2, by omega⟩

/-! ## The loop of the draws -/

/-- After some cells, of which it has kept what is to be kept, the loop goes on to keep the same of
all cells together. -/
theorem drawOnto_kept (plan : RandomPlan) (count : Nat) (ps : List Position) (g : σ) :
    plan.drawOnto count (plan.kept ps) g =
      (plan.kept (ps ++ (cellsDrawn plan.size count g).1), (cellsDrawn plan.size count g).2) := by
  induction count generalizing ps g with
  | zero => rw [drawOnto, cellsDrawn, List.append_nil]
  | succ count ih =>
    have hcell := kept_concat plan ps (drawCell plan.size.toNatClampNeg g).1
    have hcells : cellsDrawn plan.size (count + 1) g =
        ((drawCell plan.size.toNatClampNeg g).1 ::
          (cellsDrawn plan.size count (drawCell plan.size.toNatClampNeg g).2).1,
          (cellsDrawn plan.size count (drawCell plan.size.toNatClampNeg g).2).2) := rfl
    have hrest := ih (ps ++ [(drawCell plan.size.toNatClampNeg g).1])
      (drawCell plan.size.toNatClampNeg g).2
    rw [List.append_assoc, List.singleton_append] at hrest
    rw [drawOnto, hcells]
    dsimp only
    split_ifs at hcell ⊢ <;> rw [← hcell, hrest]

theorem drawObstacles_eq (plan : RandomPlan) (hsize : 0 < plan.size) (g : σ) :
    plan.drawObstacles g =
      (plan.kept (cellsDrawn plan.size plan.obstacles.toNatClampNeg g).1,
        (cellsDrawn plan.size plan.obstacles.toNatClampNeg g).2) := by
  have hloop := plan.drawOnto_kept plan.obstacles.toNatClampNeg [] g
  rw [drawObstacles, if_neg (Int64.not_le.2 hsize)]
  exact hloop

/-! ## Room for obstacles -/

/-- The cells that obstacles may take. -/
def room (plan : RandomPlan) : Set Position :=
  {p | p.within plan.size = true ∧ p ≠ plan.robot ∧ p ≠ plan.target}

theorem finite_room (plan : RandomPlan) : plan.room.Finite := by
  have hgrid : (Set.Ico 0 plan.size.toInt ×ˢ Set.Ico 0 plan.size.toInt).Finite :=
    (Set.finite_Ico _ _).prod (Set.finite_Ico _ _)
  refine (hgrid.preimage Position.coords_injective.injOn).subset fun p hp => ?_
  obtain ⟨hx, hx', hy, hy'⟩ := Position.within_iff.1 hp.1
  exact ⟨⟨hx, hx'⟩, hy, hy'⟩

/-- Obstacles that are all different and in place fit into the room that there is. -/
theorem length_le_room (hps : ps.Nodup) (hclear : plan.Clear ps) :
    ps.length ≤ plan.room.ncard := by
  have hsub : (ps.toFinset : Set Position) ⊆ plan.room := fun p hp =>
    hclear p (by simpa using hp)
  calc ps.length = ps.toFinset.card := (List.toFinset_card_of_nodup hps).symm
    _ = (ps.toFinset : Set Position).ncard := (Set.ncard_coe_finset _).symm
    _ ≤ plan.room.ncard := Set.ncard_le_ncard hsub plan.finite_room

end RandomPlan

/-- Whatever source the numbers come from, the obstacles of a drawn layout are the cells that were
drawn, without those of the robot and of the target and without repeats, in the order of the draws.
So they are all different and in place, there are no more of them than draws and no more than there
is room for, and a board is built from them, with the same list of obstacles, wherever the robot and
the target are on it. The source is left where the draws leave it, whatever the robot and the target
are. With more draws the layout begins with the same obstacles. -/
theorem obstacles_as_drawn (plan : RandomPlan) (hsize : 0 < plan.size) (g : σ) :
    let count := plan.obstacles.toNatClampNeg
    let drawn := cellsDrawn plan.size count g
    let obstacles := (plan.drawObstacles g).1
    drawn.1.length = count ∧
    obstacles = (drawn.1.filter fun p => p ≠ plan.robot ∧ p ≠ plan.target).eraseDups ∧
    obstacles.Nodup ∧
    (∀ p ∈ obstacles, p.within plan.size = true ∧ p ≠ plan.robot ∧ p ≠ plan.target) ∧
    obstacles.length ≤ min count plan.room.ncard ∧
    (plan.robot.within plan.size = true → plan.target.within plan.size = true →
      ∃ b, Board.ofLayout (plan.layout obstacles) = .ok b ∧ b.obstacles = obstacles) ∧
    (plan.drawObstacles g).2 = drawn.2 ∧
    (∀ robot target, ({ plan with robot, target }.drawObstacles g).2 = drawn.2) ∧
    ∀ more, plan.obstacles ≤ more →
      obstacles <+: ({ plan with obstacles := more }.drawObstacles g).1 := by
  intro count drawn obstacles
  have heq : plan.drawObstacles g = (plan.kept drawn.1, drawn.2) :=
    plan.drawObstacles_eq hsize g
  have hkept : obstacles = plan.kept drawn.1 := congrArg Prod.fst heq
  have hlength : drawn.1.length = count := length_cellsDrawn plan.size count g
  have hclear : plan.Clear obstacles := RandomPlan.clear_drawObstacles hsize
  obtain ⟨hnodup, hle⟩ := plan.nodup_kept drawn.1
  rw [← hkept] at hnodup hle
  refine ⟨hlength, hkept, hnodup, hclear, ?_, fun hrobot htarget => ?_, by rw [heq],
    fun robot target => ?_, fun more hmore => ?_⟩
  · exact le_min (hlength ▸ hle) (RandomPlan.length_le_room hnodup hclear)
  · obtain ⟨b, hb⟩ :=
      Board.exists_ofLayout_iff.2 ((RandomPlan.sound_layout_iff hsize hclear).2 ⟨hrobot, htarget⟩)
    exact ⟨b, hb, (Board.ofLayout_eq_ok hb).2.trans (eraseDups_of_nodup hnodup)⟩
  · rw [RandomPlan.drawObstacles_eq { plan with robot, target } hsize]
  · have hcount : count ≤ more.toNatClampNeg := by
      have hint := Int64.le_iff_toInt_le.1 hmore
      simp only [count, Int64.toNatClampNeg]
      omega
    obtain ⟨extra, hextra⟩ := Nat.exists_eq_add_of_le hcount
    rw [RandomPlan.drawObstacles_eq { plan with obstacles := more } hsize]
    dsimp only
    rw [hextra, cellsDrawn_add, hkept]
    exact plan.kept_prefix_append drawn.1 _

/-- Forty draws on a board of four cells find the two that are left. -/
theorem forty_draws_on_four_cells :
    let plan : RandomPlan := ⟨2, 40, ⟨0, 0⟩, ⟨1, 1⟩, false⟩
    let g := Generator.ofSeeds 1 2
    (plan.drawObstacles g).1 = [⟨1, 0⟩, ⟨0, 1⟩] ∧
    (plan.drawObstacles g).1.length ≤ min 40 plan.room.ncard ∧
    (∃ b, Board.ofLayout (plan.layout (plan.drawObstacles g).1) = .ok b ∧
      b.obstacles = (plan.drawObstacles g).1) ∧
    (plan.drawObstacles g).1 <+: ({ plan with obstacles := 41 }.drawObstacles g).1 := by
  intro plan g
  obtain ⟨-, -, -, -, hlength, hboard, -, -, hmore⟩ := obstacles_as_drawn plan (by decide) g
  exact ⟨by decide +kernel, hlength, hboard (by decide) (by decide), hmore 41 (by decide)⟩

end GridRobot
