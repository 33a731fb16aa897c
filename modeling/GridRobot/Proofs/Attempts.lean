import GridRobot.Proofs.Draws
import GridRobot.Proofs.Placement
import GridRobot.Proofs.Search
import GridRobot.Proofs.Solvable

/-!
# Attempts at a solvable layout

A plan that insists on a solvable layout draws whole layouts one after the other.
`RandomPlan.attempt` counts them, together with what each of them leaves of the source of random
numbers (`RandomPlan.tried`). A layout is solvable if there is a list of free cells from its robot
to its target, each one step ahead of the one before (`Layout.Solvable`). This is what the search on
its board decides (`Layout.solvable_iff_reachable`).

With the robot and the target on the board every attempt makes a board, so that an attempt ends the
search exactly if it is solvable (`InPlace.drawSolvable_succ`). Hence the first solvable one is
given (`InPlace.drawSolvable_of_first`), or the attempts are used up
(`InPlace.drawSolvable_of_none`).
-/

namespace GridRobot

/-! ## Solvable layouts -/

/-- There is a way from the robot of a layout to its target: a list of cells on the board, none of
them an obstacle, each one step ahead of the one before in one of the eight directions. -/
def Layout.Solvable (l : Layout) : Prop :=
  ∃ way : List Position, way.head? = some l.robot ∧ way.getLast? = some l.target ∧
    (way.IsChain fun p q => ∃ d : Direction, p.Ahead d 1 q) ∧
    ∀ p ∈ way, p.within l.size = true ∧ p ∉ l.obstacles

theorem Layout.solvable_iff_reachable {l : Layout} {b : Board} (h : Board.ofLayout l = .ok b) :
    l.Solvable ↔ b.reachable = true := by
  have hb := Board.valid_of_ofLayout h
  obtain ⟨⟨hsize, hrobot, htarget⟩, hmem⟩ := Board.ofLayout_spec h
  have hfree (p : Position) : b.isFree p = true ↔ p.within l.size = true ∧ p ∉ l.obstacles := by
    rw [hb.isFree_iff_notMem, hmem, Board.inBounds, hsize]
  rw [hb.reachable_iff]
  constructor
  · rintro ⟨way, hhead, hlast, hsteps, hway⟩
    rw [← hrobot] at hhead
    rw [← htarget] at hlast
    have hclear : b.Way b.robot b.target way := ⟨hhead, hlast, hsteps, fun p hp =>
      (hfree p).2 (hway p (List.mem_of_mem_tail hp))⟩
    exact hclear.path hb.robot_inBounds
  · intro hpath
    obtain ⟨way, hway⟩ := Board.exists_way_of_path hpath hb.robot_inBounds
    refine ⟨way, hrobot ▸ hway.head_eq, htarget ▸ hway.last_eq, hway.steps, fun p hp => ?_⟩
    obtain ⟨rest, rfl⟩ : ∃ rest, way = b.robot :: rest := List.head?_eq_some_iff.1 hway.head_eq
    rw [← hfree]
    rcases List.mem_cons.1 hp with rfl | hp
    · exact hb.isFree_robot
    · exact hway.free p hp

namespace RandomPlan

variable {σ : Type} [RandomSource σ] {plan : RandomPlan} {g : σ} {i attempts : Nat}

/-! ## Layouts one after the other -/

/-- The source after a number of layouts, solvable or not. -/
def tried (plan : RandomPlan) (g : σ) : Nat → σ
  | 0 => g
  | n + 1 => plan.tried (plan.drawObstacles g).2 n

/-- The layout that is drawn after a number of others. -/
def attempt (plan : RandomPlan) (g : σ) (n : Nat) : Layout :=
  plan.layout (plan.drawObstacles (plan.tried g n)).1

/-- The board has cells, and the robot and the target are on it. -/
structure InPlace (plan : RandomPlan) : Prop where
  size_pos : 0 < plan.size
  robot_within : plan.robot.within plan.size = true
  target_within : plan.target.within plan.size = true

theorem InPlace.exists_board (hplan : plan.InPlace) (g : σ) (n : Nat) :
    ∃ b, Board.ofLayout (plan.attempt g n) = .ok b := by
  have hclear : plan.Clear (plan.drawObstacles (plan.tried g n)).1 :=
    clear_drawObstacles hplan.size_pos
  exact Board.exists_ofLayout_iff.2
    ((sound_layout_iff hplan.size_pos hclear).2 ⟨hplan.robot_within, hplan.target_within⟩)

/-- An attempt is the last one exactly if it is solvable. -/
theorem InPlace.drawSolvable_succ (hplan : plan.InPlace) (attempts : Nat) (g : σ) :
    ((plan.attempt g 0).Solvable ∧
        plan.drawSolvable (attempts + 1) g = (.ok (plan.attempt g 0), plan.tried g 1)) ∨
      (¬ (plan.attempt g 0).Solvable ∧
        plan.drawSolvable (attempts + 1) g = plan.drawSolvable attempts (plan.tried g 1)) := by
  obtain ⟨b, hb⟩ := hplan.exists_board g 0
  have hstep : plan.drawSolvable (attempts + 1) g =
      if b.reachable then (.ok (plan.attempt g 0), plan.tried g 1)
      else plan.drawSolvable attempts (plan.tried g 1) := by
    unfold attempt tried at hb
    rw [drawSolvable, hb]
    rfl
  rw [Layout.solvable_iff_reachable hb, hstep]
  by_cases hreach : b.reachable = true
  · exact .inl ⟨hreach, if_pos hreach⟩
  · exact .inr ⟨hreach, if_neg hreach⟩

/-- The first solvable layout is given, and no more is drawn. -/
theorem InPlace.drawSolvable_of_first (hplan : plan.InPlace) (hi : i < attempts)
    (hsolvable : (plan.attempt g i).Solvable) (hfirst : ∀ j < i, ¬ (plan.attempt g j).Solvable) :
    plan.drawSolvable attempts g = (.ok (plan.attempt g i), plan.tried g (i + 1)) := by
  induction attempts generalizing g i with
  | zero => omega
  | succ attempts ih =>
    obtain ⟨hnow, hdraw⟩ | ⟨hlater, hdraw⟩ := hplan.drawSolvable_succ attempts g
    · obtain rfl : i = 0 := by
        by_contra hne
        exact hfirst 0 (Nat.pos_of_ne_zero hne) hnow
      exact hdraw
    · obtain ⟨i, rfl⟩ : ∃ k, i = k + 1 := by
        refine Nat.exists_eq_succ_of_ne_zero ?_
        rintro rfl
        exact hlater hsolvable
      rw [hdraw]
      exact ih (g := plan.tried g 1) (by omega) hsolvable fun j hj => hfirst (j + 1) (by omega)

/-- Where no attempt is solvable, all of them are made. -/
theorem InPlace.drawSolvable_of_none (hplan : plan.InPlace)
    (hnone : ∀ j < attempts, ¬ (plan.attempt g j).Solvable) :
    plan.drawSolvable attempts g =
      (.error (.noReachableLayout plan.obstacles maxAttempts), plan.tried g attempts) := by
  induction attempts generalizing g with
  | zero => rfl
  | succ attempts ih =>
    obtain ⟨hnow, -⟩ | ⟨-, hdraw⟩ := hplan.drawSolvable_succ attempts g
    · exact absurd hnow (hnone 0 (by omega))
    · rw [hdraw]
      exact ih (g := plan.tried g 1) fun j hj => hnone (j + 1) (by omega)

/-- A plan that is out of place fails at the first layout. -/
theorem exists_fault_of_not_inPlace (hplan : ¬ plan.InPlace) (attempts : Nat) (g : σ) :
    ∃ e, plan.drawSolvable (attempts + 1) g = (.error e, plan.tried g 1) ∧
      (plan.attempt g 0).Fault e := by
  rcases hboard : Board.ofLayout (plan.attempt g 0) with e | b
  · refine ⟨e, ?_, Board.fault_of_ofLayout hboard⟩
    unfold attempt tried at hboard
    rw [drawSolvable, hboard]
    rfl
  · have hsound := Board.exists_ofLayout_iff.1 ⟨b, hboard⟩
    exact absurd ⟨hsound.size_pos, hsound.robot_within, hsound.target_within⟩ hplan

end RandomPlan

/-- A plan that insists on a solvable layout draws layouts until one has a way from the robot to the
target, whatever source the numbers come from. With the robot and the target on the board, the first
such layout within a hundred is given, and the source is left where that layout left it. If there is
none, it is an error after exactly a hundred layouts. With a board of no cells, or the robot or the
target outside of it, it is an error that names the fault. All of these are errors of an invalid
board, and every layout that is given makes a board. -/
theorem first_solvable_layout_drawn {σ : Type} [RandomSource σ] (plan : RandomPlan)
    (hsolvable : plan.solvable = true) (g : σ) :
    (plan.InPlace →
      ((∃ i < 100, (plan.attempt g i).Solvable) →
        ∃ i < 100, (plan.attempt g i).Solvable ∧ (∀ j < i, ¬ (plan.attempt g j).Solvable) ∧
          plan.draw g = (.ok (plan.attempt g i), plan.tried g (i + 1))) ∧
      ((¬ ∃ i < 100, (plan.attempt g i).Solvable) →
        plan.draw g = (.error (.noReachableLayout plan.obstacles 100), plan.tried g 100))) ∧
    (¬ plan.InPlace → ∃ e, (plan.draw g).1 = .error e ∧ (plan.attempt g 0).Fault e) ∧
    (∀ e, (plan.draw g).1 = .error e → Text.ofString "invalid board: " <+: e.message) ∧
    ∀ l, (plan.draw g).1 = .ok l → ∃ b, Board.ofLayout l = .ok b := by
  have hdraw : plan.draw g = plan.drawSolvable 100 g := by
    rw [RandomPlan.draw, if_pos hsolvable]
    rfl
  refine ⟨fun hplan => ⟨fun hsome => ?_, fun hnone => ?_⟩, fun hplan => ?_,
    fun e _ => List.prefix_append _ _, fun l hl => ?_⟩
  · classical
    obtain ⟨hlt, hfound⟩ := Nat.find_spec hsome
    have hfirst (j : Nat) (hj : j < Nat.find hsome) : ¬ (plan.attempt g j).Solvable := fun h =>
      Nat.find_min hsome hj ⟨hj.trans hlt, h⟩
    exact ⟨Nat.find hsome, hlt, hfound, hfirst,
      hdraw.trans (hplan.drawSolvable_of_first hlt hfound hfirst)⟩
  · exact hdraw.trans (hplan.drawSolvable_of_none fun j hj h => hnone ⟨j, hj, h⟩)
  · obtain ⟨e, he, hfault⟩ := RandomPlan.exists_fault_of_not_inPlace hplan 99 g
    exact ⟨e, by rw [hdraw, he], hfault⟩
  · obtain ⟨b, hb, -⟩ := RandomPlan.exists_board_of_draw hsolvable hl
    exact ⟨b, hb⟩

/-- Here the fourth layout is the first with a way to the target. With the target off the board
there is none. -/
theorem fourth_layout_drawn :
    let plan : RandomPlan := ⟨3, 6, ⟨0, 0⟩, ⟨2, 2⟩, true⟩
    let g := Generator.ofSeeds 14 2
    (∃ i < 100, (plan.attempt g i).Solvable ∧ (∀ j < i, ¬ (plan.attempt g j).Solvable) ∧
      plan.draw g = (.ok (plan.attempt g i), plan.tried g (i + 1))) ∧
    plan.draw g = (.ok (plan.attempt g 3), plan.tried g 4) ∧
    ∃ e, (RandomPlan.draw { plan with target := ⟨3, 0⟩ } g).1 = .error e ∧
      Text.ofString "invalid board: " <+: e.message := by
  intro plan g
  have hplan : plan.InPlace := ⟨by decide, by decide, by decide⟩
  have hfourth : (Board.ofLayout (plan.attempt g 3)).toOption.any Board.reachable = true := by
    decide +kernel
  have hsome : ∃ i < 100, (plan.attempt g i).Solvable := by
    obtain ⟨b, hb⟩ := hplan.exists_board g 3
    rw [hb] at hfourth
    exact ⟨3, by decide, (Layout.solvable_iff_reachable hb).2 hfourth⟩
  obtain ⟨hin, -⟩ := first_solvable_layout_drawn plan rfl g
  obtain ⟨-, hout, hmessage, -⟩ :=
    first_solvable_layout_drawn { plan with target := ⟨3, 0⟩ } rfl g
  obtain ⟨e, he, -⟩ := hout fun hplan => absurd hplan.target_within (by decide)
  exact ⟨(hin hplan).1 hsome, by decide +kernel, e, he, hmessage e he⟩

end GridRobot
