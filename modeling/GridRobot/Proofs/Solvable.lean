import GridRobot.Proofs.Runes
import GridRobot.Proofs.Runs
import GridRobot.Random.Generator

/-!
# Solvable games

A game is solvable if the search finds the target. This is what scripts can do: where the policy
for wins leaves the session alone, some lines take the robot to the target exactly if the search
finds it (`reachable_iff_exists_lines`). Along a path the robot is moved by one line for each step
(`moveLine`); conversely no line takes the robot off the free cells it can walk to.

A plan that insists on solvable layouts gives nothing else (`reachable_of_boardAt_random`), and no
turn but a reset changes whether the target can be reached, so that a session of such a plan is
solvable for ever (`solvable_for_ever`).
-/

namespace GridRobot

/-! ## Lines that follow a path -/

/-- The line that moves the robot by one step. -/
def moveLine (d : Direction) : Text :=
  Text.join [32] [Keyword.move.word, d.name, Text.ofString "1"]

theorem words_moveLine (d : Direction) :
    (moveLine d).words = [Keyword.move.word, d.name, Text.ofString "1"] := by
  cases d <;> decide

theorem ofWords_moveLine (d : Direction) : Command.ofWords (moveLine d).words =
    ⟨.move, Keyword.move.word, [d.name, Text.ofString "1"]⟩ := by
  have hupper : Keyword.move.word.upper = Keyword.move.word := Text.upper_of_all_lt rfl
  rw [words_moveLine, Command.ofWords, hupper]
  rfl

theorem Direction.read?_name (d : Direction) : Direction.read? d.name = some d := by
  have hupper : d.name.upper = d.name := Text.upper_of_all_lt (by cases d <;> rfl)
  rw [read?, hupper]
  cases d <;> decide

theorem Session.board_checkWin {s : Session} (h : s.onWin = .inert) :
    s.checkWin.2.board = s.board := by
  rw [checkWin_of_inert h]
  split_ifs <;> rfl

namespace Game

theorem board_interpret_moveLine {g : Game} {d : Direction} (hp : g.session.onWin = .inert)
    (h : g.session.board.isFree (g.session.board.robot.add d.delta) = true) :
    (g.interpret (moveLine d)).2.session.board =
      { g.session.board with robot := g.session.board.robot.add d.delta } := by
  have hone : Text.readDecimal? (Text.ofString "1") = some 1 := by decide
  have hrun : runLine (maxNesting + 1) (moveLine d) g = (.ok (), { g with
      session := (g.session.arrive { g.session.board with
        robot := g.session.board.robot.add d.delta }).checkWin.2 }) := by
    rw [runLine, ofWords_moveLine]
    simp only [execMove, steps, hone, moveRobot, Direction.read?_name, Board.move_one h]
    rfl
  rw [interpret, hrun]
  exact Session.board_checkWin hp

/-- A path of free cells can be followed line by line. -/
theorem exists_lines_of_path {b : Board} {p t : Position} (h : b.Path p t) (g : Game)
    (hp : g.session.onWin = .inert) (hground : b.SameGround g.session.board)
    (hrobot : g.session.board.robot = p) :
    ∃ lines : List Text, (g.after (lines.map .interpret)).session.board.robot = t ∧
      b.SameGround (g.after (lines.map .interpret)).session.board := by
  induction h using Relation.ReflTransGen.head_induction_on generalizing g with
  | refl => exact ⟨[], hrobot, hground⟩
  | @head p q hs _ ih =>
    obtain ⟨⟨d, rfl⟩, hfree⟩ := hs
    subst hrobot
    have hboard := board_interpret_moveLine (d := d) hp (by
      simpa [Board.isFree, Board.inBounds, hground.size_eq, hground.cells_eq] using hfree)
    have hp' : (g.interpret (moveLine d)).2.session.onWin = .inert :=
      (g.turns_interpret (moveLine d)).setup_eq.2.trans hp
    obtain ⟨lines, hlines⟩ := ih (g.interpret (moveLine d)).2 hp'
      (by rw [hboard]; exact hground.trans ⟨rfl, rfl, rfl, rfl⟩) (by rw [hboard])
    exact ⟨moveLine d :: lines, hlines⟩

end Game

/-- In every state of a run whose policy for wins leaves the session alone, the search finds the
target exactly if some lines take the robot there. -/
theorem reachable_iff_exists_lines {setup : Setup} {s : Session}
    (h : Session.start setup .inert = .ok s) (scheduler : Option Scheduler)
    (ops : List Operation) :
    let g := (Game.mk s scheduler []).after ops
    g.session.board.reachable = true ↔
      ∃ lines : List Text, (g.after (lines.map .interpret)).session.board.atTarget = true := by
  intro g
  have hfresh := Session.fresh_of_start h
  have hturns := (Game.mk s scheduler []).turns_after ops
  have hvalid : g.session.board.Valid := hturns.valid hfresh.valid
  have hinert : g.session.onWin = .inert := hturns.setup_eq.2.trans hfresh.onWin_eq
  rw [hvalid.reachable_iff]
  constructor
  · intro hpath
    obtain ⟨lines, hrobot, hground⟩ := Game.exists_lines_of_path hpath g hinert (.refl _) rfl
    refine ⟨lines, ?_⟩
    rw [Board.atTarget, hrobot, hground.target_eq]
    exact beq_self_eq_true _
  · rintro ⟨lines, htarget⟩
    have hlines := g.turns_after (lines.map .interpret)
    have hr : ¬ (g.session.onWin ≠ .inert ∨ ∃ op ∈ lines.map Operation.interpret, op.Resets) := by
      simp [hinert, Operation.Resets]
    have hpath := hlines.path hr hvalid
    rw [Board.atTarget, beq_iff_eq, (hlines.sameGround hr).target_eq] at htarget
    rwa [htarget] at hpath

/-- No script takes the robot to a target behind a wall. -/
theorem no_lines_to_walled_target :
    ∃ s, Session.start (.fixed ⟨3, ⟨0, 0⟩, ⟨2, 2⟩, [⟨1, 1⟩, ⟨1, 2⟩, ⟨2, 1⟩]⟩) .inert = .ok s ∧
      ¬ ∃ lines : List Text, (((Game.mk s none []).after [.interpret (moveLine .down)]).after
        (lines.map .interpret)).session.board.atTarget = true := by
  have h : Session.start (.fixed ⟨3, ⟨0, 0⟩, ⟨2, 2⟩, [⟨1, 1⟩, ⟨1, 2⟩, ⟨2, 1⟩]⟩) .inert =
      .ok _ := rfl
  refine ⟨_, h, fun hlines => ?_⟩
  have hreach := (reachable_iff_exists_lines h none [.interpret (moveLine .down)]).2 hlines
  exact absurd hreach (by decide +kernel)

/-! ## Plans that insist on solvable layouts -/

namespace RandomPlan

variable {σ : Type} [RandomSource σ] {plan : RandomPlan} {l : Layout}

theorem exists_board_of_drawSolvable {attempts : Nat} {g : σ}
    (h : (plan.drawSolvable attempts g).1 = .ok l) :
    ∃ b, Board.ofLayout l = .ok b ∧ b.reachable = true := by
  induction attempts generalizing g with
  | zero => cases h
  | succ attempts ih =>
    rw [drawSolvable] at h
    split at h
    · cases h
    · next b hb =>
      split_ifs at h with hreach
      · cases h
        exact ⟨b, hb, hreach⟩
      · exact ih h

theorem exists_board_of_draw {g : σ} (hs : plan.solvable = true)
    (h : (plan.draw g).1 = .ok l) : ∃ b, Board.ofLayout l = .ok b ∧ b.reachable = true := by
  rw [draw, if_pos hs] at h
  exact exists_board_of_drawSolvable h

end RandomPlan

section

variable {σ : Type} [RandomSource σ] {plan : RandomPlan} {gen : σ}

theorem Session.reachable_of_boardAt_random {n : Nat} {b : Board} (hs : plan.solvable = true)
    (h : boardAt (.random plan gen) n = .ok b) : b.reachable = true := by
  unfold boardAt Setup.random at h
  rcases hl : (plan.draw (plan.after gen n)).1 with e | l
  · simp [hl, Except.mapError] at h
  · obtain ⟨c, hc, hreach⟩ := RandomPlan.exists_board_of_draw hs hl
    simp only [hl, Except.mapError, hc, Except.ok.injEq] at h
    exact h ▸ hreach

theorem Session.Turn.reachable {r : Prop} {s t : Session} (hs : plan.solvable = true)
    (hsetup : s.setup = .random plan gen) (h : Turn r s t)
    (hvalid : s.board.Valid) (hreach : s.board.reachable = true) : t.board.reachable = true := by
  cases h with
  | move hmove => rwa [hvalid.reachable_of_move hmove]
  | reset =>
    obtain ⟨b, hb, h⟩ | ⟨e, -, h⟩ := reset_cases s <;> rw [h]
    · rw [hsetup] at hb
      exact reachable_of_boardAt_random hs hb
    · exact hreach
  | _ => exact hreach

end

/-- Whether the target can be reached never changes by a move, and a session whose setup insists
on solvable layouts is solvable in every state of every run. -/
theorem solvable_for_ever :
    (∀ (b : Board) (d : Direction) (n : Int64), b.Valid →
      (b.moved d n).reachable = b.reachable) ∧
    ∀ (plan : RandomPlan) (gen : Generator) (onWin : WinPolicy) (s : Session),
      plan.solvable = true → Session.start (.random plan gen) onWin = .ok s →
      ∀ (scheduler : Option Scheduler) (ops : List Operation),
        ((Game.mk s scheduler []).after ops).session.board.reachable = true := by
  refine ⟨fun b d n hb => hb.reachable_moved d n, ?_⟩
  intro plan gen onWin s hs h scheduler ops
  have hfresh := Session.fresh_of_start h
  have hturns := (Game.mk s scheduler []).turns_after ops
  refine (hturns.keep (P := fun t => t.setup = .random plan gen ∧ t.board.Valid ∧
    t.board.reachable = true) (fun t u hturn ⟨hsetup, hvalid, hreach⟩ => ?_) ?_).2.2
  · exact ⟨hturn.setup_eq.1.trans hsetup, hturn.valid hvalid,
      hturn.reachable hs hsetup hvalid hreach⟩
  · exact ⟨hfresh.setup_eq, hfresh.valid,
      Session.reachable_of_boardAt_random hs hfresh.boardAt_eq⟩

/-- A crowded little board that was drawn solvable is so after any moves and resets. -/
theorem drawn_board_solvable_for_ever :
    let setup := Setup.random ⟨4, 7, ⟨0, 0⟩, ⟨3, 3⟩, true⟩ (Generator.ofSeeds 1 2)
    ∃ s, Session.start setup .reset = .ok s ∧
      ((Game.mk s none []).after
        [.interpret (moveLine .down), .resetSession]).session.board.reachable = true := by
  intro setup
  -- it is enough to know that the draw succeeds, not what it draws
  have hok : (Session.start setup .reset).isOk = true := by decide +kernel
  rcases h : Session.start setup .reset with e | s
  · rw [h] at hok
    cases hok
  · exact ⟨s, rfl, solvable_for_ever.2 _ _ _ s rfl h none _⟩

end GridRobot
