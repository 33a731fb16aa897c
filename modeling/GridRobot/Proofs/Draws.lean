import GridRobot.Program
import GridRobot.Proofs.Layouts
import GridRobot.Proofs.Runs
import GridRobot.Proofs.Wins

/-!
# Drawn boards

Whatever source the numbers come from, a number that is drawn is below its bound, so each cell that
is drawn lies on the board, and those that the robot or the target stands on are left out
(`RandomPlan.clear_drawOnto`). Hence whether a drawn layout makes a board depends on the robot and
the target alone: not on the state of the source, nor on how much was drawn before
(`Session.exists_boardAt_random_iff`). Settings that pass their check with a robot and a target on
the board never run into a board that cannot be built (`draws_never_fail`).
-/

namespace GridRobot

/-! ## Obstacles that are drawn -/

namespace RandomPlan

variable {σ : Type} [RandomSource σ] {plan : RandomPlan} {gen : σ}

theorem within_drawCell {size : Int64} (hsize : 0 < size) (gen : σ) :
    (drawCell size.toNatClampNeg gen).1.within size = true := by
  have hpos : 0 < size.toInt := by simpa using Int64.lt_iff_toInt_lt.1 hsize
  have hbound := size.toInt_lt
  have hside : (size.toNatClampNeg : Int) = size.toInt := by
    simp only [Int64.toNatClampNeg]
    omega
  have hint (k : Nat) (hk : k < size.toNatClampNeg) :
      0 ≤ (Int64.ofNat k).toInt ∧ (Int64.ofNat k).toInt < size.toInt := by
    rw [Int64.toInt_ofNat_of_lt (by omega)]
    omega
  have hbelow (g : σ) : (RandomSource.below g size.toNatClampNeg).1 < size.toNatClampNeg :=
    RandomSource.below_lt (by omega) g
  obtain ⟨hx, hx'⟩ := hint _ (hbelow gen)
  obtain ⟨hy, hy'⟩ := hint _ (hbelow (RandomSource.below gen size.toNatClampNeg).2)
  exact Position.within_iff.2 ⟨hx, hx', hy, hy'⟩

/-- Every obstacle lies on the board, and neither the robot nor the target stands there. -/
def Clear (plan : RandomPlan) (ps : List Position) : Prop :=
  ∀ p ∈ ps, p.within plan.size = true ∧ p ≠ plan.robot ∧ p ≠ plan.target

theorem clear_drawOnto (hsize : 0 < plan.size) {drawn : List Position} (count : Nat)
    (hdrawn : plan.Clear drawn) : plan.Clear (plan.drawOnto count drawn gen).1 := by
  induction count generalizing drawn gen with
  | zero => exact hdrawn
  | succ count ih =>
    rw [drawOnto]
    split_ifs with htaken
    · exact ih hdrawn
    · simp only [not_or] at htaken
      obtain ⟨hrobot, htarget, -⟩ := htaken
      refine ih fun p hp => ?_
      rcases List.mem_append.1 hp with hp | hp
      · exact hdrawn p hp
      · rw [List.mem_singleton.1 hp]
        exact ⟨within_drawCell hsize gen, hrobot, htarget⟩

theorem clear_drawObstacles (hsize : 0 < plan.size) : plan.Clear (plan.drawObstacles gen).1 := by
  rw [drawObstacles, if_neg (Int64.not_le.2 hsize)]
  exact clear_drawOnto hsize _ (by simp [Clear])

theorem sound_layout_iff (hsize : 0 < plan.size) {ps : List Position} (hps : plan.Clear ps) :
    (plan.layout ps).Sound ↔
      plan.robot.within plan.size = true ∧ plan.target.within plan.size = true :=
  ⟨fun h => ⟨h.robot_within, h.target_within⟩, fun h => ⟨hsize, h.1, h.2, hps⟩⟩

end RandomPlan

/-! ## Builds that cannot fail -/

namespace Session

variable {σ : Type} [RandomSource σ] {plan : RandomPlan} {s t : Session}

/-- What was drawn, now or before, decides nothing about whether there is a board. -/
theorem exists_boardAt_random_iff (hsize : 0 < plan.size) (hplain : plan.solvable = false)
    (gen : σ) (n : Nat) : (∃ b, boardAt (.random plan gen) n = .ok b) ↔
      plan.robot.within plan.size = true ∧ plan.target.within plan.size = true := by
  have hclear : plan.Clear (plan.drawObstacles (plan.after gen n)).1 :=
    RandomPlan.clear_drawObstacles hsize
  rw [← RandomPlan.sound_layout_iff hsize hclear, ← Board.exists_ofLayout_iff]
  have hboard : boardAt (.random plan gen) n =
      (Board.ofLayout (plan.layout (plan.drawObstacles (plan.after gen n)).1)).mapError .board := by
    simp [boardAt, Setup.random, RandomPlan.draw, hplain, Except.mapError]
  rw [hboard]
  rcases Board.ofLayout (plan.layout (plan.drawObstacles (plan.after gen n)).1) with e | b <;>
    simp [Except.mapError]

/-- Where every consultation of the setup gives a board, no reset fails, whatever came before. -/
theorem Turns.reset_eq_ok {r : Prop} (h : Turns r s t)
    (hboards : ∀ n, ∃ b, boardAt s.setup n = .ok b) : t.reset.1 = .ok () := by
  obtain ⟨b, hb⟩ := hboards t.consulted
  rw [← h.setup_eq.1] at hb
  rw [reset_of_ok hb]

end Session

theorem Program.exists_setup_random {s : Settings} (hlayout : s.layout = []) (w : World) :
    ∃ gen : Generator, setup w s = .ok (.random (plan s) gen) := by
  simp [setup, hlayout]

/-- What the check of settings guarantees to random boards. If it finds nothing wrong with settings
that name no board file and do not insist on a solvable board, then whether a board can be built
depends on the robot and the target alone, for every state of the generator and after every number
of draws. So the first session can be built exactly if both are on the board, and from there on no
reset fails in any state of any run, inside of lines and of win policies too. -/
theorem draws_never_fail {s : Settings} (hcheck : s.check = .ok s) (hlayout : s.layout = [])
    (hplain : s.solvable = false) (w : Program.World) (onWin : WinPolicy) :
    (∀ (gen : Generator) (n : Nat),
      (∃ b, Session.boardAt (.random (Program.plan s) gen) n = .ok b) ↔
        s.robot.within s.boardSize = true ∧ s.target.within s.boardSize = true) ∧
    ∃ setup, Program.setup w s = .ok setup ∧
      ((∃ first, Session.start setup onWin = .ok first) ↔
        s.robot.within s.boardSize = true ∧ s.target.within s.boardSize = true) ∧
      ∀ first, Session.start setup onWin = .ok first →
        (∀ t, Session.Turns True first t → t.reset.1 = .ok ()) ∧
        ∀ (scheduler : Option Scheduler) (requests : List Request),
          ((Game.mk first scheduler []).serveAll requests).session.reset.1 = .ok () := by
  have hsize : 0 < s.boardSize :=
    ((Settings.problems_eq_nil_iff.1 (Settings.check_eq_ok_iff.1 hcheck).1).1 hlayout).1
  have hbuilt (gen : Generator) (n : Nat) :
      (∃ b, Session.boardAt (.random (Program.plan s) gen) n = .ok b) ↔
        s.robot.within s.boardSize = true ∧ s.target.within s.boardSize = true :=
    Session.exists_boardAt_random_iff hsize hplain gen n
  obtain ⟨gen, hsetup⟩ := Program.exists_setup_random hlayout w
  refine ⟨hbuilt, _, hsetup, ?_, fun first hstart => ?_⟩
  · rw [Session.exists_start_iff]
    exact hbuilt gen 0
  · have hfresh := Session.fresh_of_start hstart
    have hboards (n : Nat) : ∃ b, Session.boardAt first.setup n = .ok b := by
      rw [hfresh.setup_eq]
      exact (hbuilt gen n).2 ((hbuilt gen 0).1 ⟨_, hfresh.boardAt_eq⟩)
    refine ⟨fun t hturns => hturns.reset_eq_ok hboards, fun scheduler requests => ?_⟩
    exact ((Game.mk first scheduler []).turns_serveAll requests).reset_eq_ok hboards

/-- A board of nine cells with twelve draws is built again and again; a board too small for the
target that it was left with is never built. -/
theorem crowded_draws_never_fail :
    let s : Settings :=
      { Settings.default with boardSize := 3, obstacles := 12, seed := 7, target := ⟨2, 2⟩ }
    let small : Settings := { Settings.default with boardSize := 12, seed := 7 }
    let w : Program.World := ⟨Files.ofList [], 0, fun _ => [], none, RunEvent.punctual⟩
    (∃ setup first, Program.setup w s = .ok setup ∧ Session.start setup .reset = .ok first ∧
      ((Game.mk first none []).serveAll
        [.operate (.interpret (Text.ofString "MOVER BAIXO 2")), .operate .resetRun]
          ).session.reset.1 = .ok ()) ∧
    ∃ setup, Program.setup w small = .ok setup ∧
      ¬ ∃ first, Session.start setup .reset = .ok first := by
  intro s small w
  have hs : s.check = .ok s := Settings.check_eq_ok_iff.2 ⟨by decide +kernel, rfl⟩
  have hsmall : small.check = .ok small := Settings.check_eq_ok_iff.2 ⟨by decide +kernel, rfl⟩
  constructor
  · obtain ⟨-, setup, hsetup, hiff, hresets⟩ := draws_never_fail hs rfl rfl w .reset
    obtain ⟨first, hfirst⟩ := hiff.2 (by decide)
    exact ⟨setup, first, hsetup, hfirst, (hresets first hfirst).2 none _⟩
  · obtain ⟨-, setup, hsetup, hiff, -⟩ := draws_never_fail hsmall rfl rfl w .reset
    exact ⟨setup, hsetup, mt hiff.1 (by decide)⟩

end GridRobot
