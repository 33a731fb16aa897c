import GridRobot.Proofs.Lines
import GridRobot.Script
import Mathlib.Tactic.SplitIfs

/-!
# Games side by side

Two games may differ in what commands do not look at: what was logged before, how often the setup
was asked, what the scheduler is doing. `Game.Parallel` lists what a relation between games has to
keep, once for each thing a command can do to a game. Then every line gives the same outcome in
related games and leaves them related (`Alongside.interpret`), however deep its conditions go.

The boards of the two games need not be the same either. It is enough that moving and sensing do not
tell them apart (`Board.Alike`) and that listing their obstacles leaves the games related: that is
`Game.Alongside`, of which `Game.Parallel` is the case of equal boards.
-/

namespace GridRobot

/-- A relation between boards that neither a move nor the sensor sees through. -/
structure Board.Alike (B : Board → Board → Prop) : Prop where
  sense_eq : ∀ {b c}, B b c → c.sense = b.sense
  atTarget_eq : ∀ {b c}, B b c → c.atTarget = b.atTarget
  move : ∀ {b c}, B b c → ∀ d n,
    (∃ e, b.move d n = .error e ∧ c.move d n = .error e) ∨
      ∃ b' c', b.move d n = .ok b' ∧ c.move d n = .ok c' ∧ c'.robot = b'.robot ∧ B b' c'

theorem Board.alike_eq : Alike Eq where
  sense_eq hbc := by rw [hbc]
  atTarget_eq hbc := by rw [hbc]
  move {b c} hbc d n := by
    subst hbc
    rcases b.move d n with e | b'
    · exact .inl ⟨e, rfl, rfl⟩
    · exact .inr ⟨b', b', rfl, rfl, rfl, rfl⟩

namespace Game

/-- A start that finds a run in progress is no more than a detail. -/
theorem start_of_running {g : Game} (hrun : g.running = true) : g.start = { g with
    session := g.session.note (.debug (Text.ofString "scheduler already running") []) } := by
  unfold running at hrun
  unfold start
  rcases hs : g.scheduler with _ | s
  · rw [hs] at hrun
    cases hrun
  · rw [hs, Option.any_some] at hrun
    exact if_pos hrun

/-- Outcomes that are the same, with related games. -/
def Agree {α : Type} (R : Game → Game → Prop) (x y : α × Game) : Prop :=
  x.1 = y.1 ∧ R x.2 y.2

theorem Agree.exists_eq {α : Type} {R : Game → Game → Prop} {x y : α × Game} (hxy : Agree R x y) :
    ∃ a g h, x = (a, g) ∧ y = (a, h) ∧ R g h :=
  ⟨x.1, x.2, y.2, rfl, by rw [hxy.1], hxy.2⟩

/-- A relation between games with boards related by `B` that commands can neither see through nor
break. -/
structure Alongside (B : Board → Board → Prop) (R : Game → Game → Prop) : Prop where
  alike : Board.Alike B
  board : ∀ {g h}, R g h → B g.session.board h.session.board
  env_eq : ∀ {g h}, R g h → h.session.env = g.session.env
  log : ∀ {g h}, R g h → ∀ message isError,
    R { g with session := g.session.log message isError }
      { h with session := h.session.log message isError }
  assign : ∀ {g h}, R g h → ∀ env,
    R { g with session := { g.session with env } } { h with session := { h.session with env } }
  place : ∀ {g h}, R g h → ∀ {b c}, B b c →
    R { g with session := { g.session with board := b } }
      { h with session := { h.session with board := c } }
  checkWin : ∀ {g h}, R g h →
    R { g with session := g.session.checkWin.2 } { h with session := h.session.checkWin.2 }
  start : ∀ {g h}, R g h → R g.start h.start
  list : ∀ {g h}, R g h → R ((listing g.session.board.obstacles).foldl Game.say g)
    ((listing h.session.board.obstacles).foldl Game.say h)

/-- A relation between games that commands can neither see through nor break. -/
structure Parallel (R : Game → Game → Prop) : Prop where
  board_eq : ∀ {g h}, R g h → h.session.board = g.session.board
  env_eq : ∀ {g h}, R g h → h.session.env = g.session.env
  log : ∀ {g h}, R g h → ∀ message isError,
    R { g with session := g.session.log message isError }
      { h with session := h.session.log message isError }
  assign : ∀ {g h}, R g h → ∀ env,
    R { g with session := { g.session with env } } { h with session := { h.session with env } }
  place : ∀ {g h}, R g h → ∀ board,
    R { g with session := { g.session with board } } { h with session := { h.session with board } }
  checkWin : ∀ {g h}, R g h →
    R { g with session := g.session.checkWin.2 } { h with session := h.session.checkWin.2 }
  start : ∀ {g h}, R g h → R g.start h.start

theorem foldl_say_related {R : Game → Game → Prop} {g h : Game}
    (hsay : ∀ {g h}, R g h → ∀ message, R (g.say message) (h.say message)) (hgh : R g h)
    (messages : List Text) : R (messages.foldl say g) (messages.foldl say h) := by
  induction messages generalizing g h with
  | nil => exact hgh
  | cons m messages ih => exact ih (hsay hgh m)

theorem Parallel.alongside {R : Game → Game → Prop} (hR : Parallel R) : Alongside Eq R where
  alike := Board.alike_eq
  board hgh := (hR.board_eq hgh).symm
  env_eq := hR.env_eq
  log := hR.log
  assign := hR.assign
  place {g h} hgh {b c} hbc := by
    subst hbc
    exact hR.place hgh b
  checkWin := hR.checkWin
  start := hR.start
  list {g h} hgh := by
    rw [hR.board_eq hgh]
    exact foldl_say_related (R := R) (fun hgh message => hR.log hgh message false) hgh _

namespace Alongside

variable {B : Board → Board → Prop} {R : Game → Game → Prop} {g h : Game}

/-! ## Commands -/

theorem say (hR : Alongside B R) (hgh : R g h) (message : Text) : R (g.say message) (h.say message) :=
  hR.log hgh message false

theorem evalCondition (hR : Alongside B R) (hgh : R g h) (condition expected : Text) :
    Agree R (g.evalCondition condition expected) (h.evalCondition condition expected) := by
  unfold Game.evalCondition
  rw [hR.alike.sense_eq (hR.board hgh), hR.alike.atTarget_eq (hR.board hgh)]
  dsimp only
  split_ifs
  · split <;> exact ⟨rfl, hgh⟩
  · exact ⟨rfl, hR.checkWin hgh⟩
  · exact ⟨rfl, hgh⟩
  · exact ⟨rfl, hgh⟩

theorem execVar (hR : Alongside B R) (hgh : R g h) (args : List Text) :
    Agree R (g.execVar args) (h.execVar args) := by
  unfold Game.execVar
  rw [hR.env_eq hgh]
  split
  · exact ⟨rfl, hR.log (hR.assign hgh _) _ false⟩
  · exact ⟨rfl, hgh⟩

theorem moveRobot (hR : Alongside B R) (hgh : R g h) (direction : Text) (n : Int64) :
    Agree R (g.moveRobot direction n) (h.moveRobot direction n) := by
  unfold Game.moveRobot
  split
  · exact ⟨rfl, hgh⟩
  · next d _ =>
    obtain ⟨e, hb, hc⟩ | ⟨b, c, hb, hc, hrobot, hbc⟩ := hR.alike.move (hR.board hgh) d n
    · rw [hb, hc]
      exact ⟨rfl, hgh⟩
    · rw [hb, hc]
      dsimp only
      rw [hrobot]
      exact ⟨rfl, hR.checkWin (hR.log (hR.place hgh hbc) _ false)⟩

theorem execMove (hR : Alongside B R) (hgh : R g h) (args : List Text) :
    Agree R (g.execMove args) (h.execMove args) := by
  have hsteps (word : Text) : g.steps word = h.steps word := by
    unfold Game.steps
    rw [hR.env_eq hgh]
  unfold Game.execMove
  split
  · rw [hsteps]
    split
    · exact ⟨rfl, hgh⟩
    · exact hR.moveRobot hgh _ _
  · exact ⟨rfl, hgh⟩

theorem execHelp (hR : Alongside B R) (hgh : R g h) (args : List Text) :
    Agree R (g.execHelp args) (h.execHelp args) := by
  unfold Game.execHelp
  split
  · exact ⟨rfl, foldl_say_related hR.say hgh _⟩
  · exact ⟨rfl, hgh⟩

theorem execList (hR : Alongside B R) (hgh : R g h) (args : List Text) :
    Agree R (g.execList args) (h.execList args) := by
  rcases args with _ | ⟨what, rest⟩
  · exact ⟨rfl, hgh⟩
  · rw [execList_cons, execList_cons]
    split_ifs
    · exact ⟨rfl, hgh⟩
    · exact ⟨rfl, hR.list hgh⟩

theorem execStart (hR : Alongside B R) (hgh : R g h) (args : List Text) :
    Agree R (g.execStart args) (h.execStart args) := by
  unfold Game.execStart
  split
  · dsimp only
    split_ifs
    · exact ⟨rfl, hgh⟩
    · exact ⟨rfl, hR.start hgh⟩
  · exact ⟨rfl, hgh⟩

/-! ## Lines -/

theorem runLine (hR : Alongside B R) (hgh : R g h) (levels : Nat) (line : Text) :
    Agree R (runLine levels line g) (runLine levels line h) := by
  induction levels generalizing line g h with
  | zero => exact ⟨rfl, hgh⟩
  | succ levels ih =>
    unfold Game.runLine
    dsimp only
    split
    · exact hR.execVar hgh _
    · exact hR.execMove hgh _
    · exact hR.execHelp hgh _
    · exact hR.execList hgh _
    · exact hR.execStart hgh _
    · exact ⟨rfl, hgh⟩
    · split
      · next condition expected word rest _ =>
        obtain ⟨x, g', h', hg, hh, hgames⟩ :=
          (hR.evalCondition hgh condition.upper expected.upper).exists_eq
        rw [hg, hh]
        rcases x with e | _ | _
        · exact ⟨rfl, hgames⟩
        · exact ⟨rfl, hR.say hgames _⟩
        · exact ih (hR.say hgames _) _
      · exact ⟨rfl, hgh⟩

theorem interpret (hR : Alongside B R) (hgh : R g h) (line : Text) :
    Agree R (g.interpret line) (h.interpret line) := by
  obtain ⟨x, g', h', hg, hh, hgames⟩ := (hR.runLine hgh (maxNesting + 1) line).exists_eq
  unfold Game.interpret
  rw [hg, hh]
  rcases x with e | _
  · exact ⟨rfl, hR.log hgames _ true⟩
  · exact ⟨rfl, hgames⟩

/-- Where recording a line keeps games related, giving a line to the interpreter does. -/
theorem hand (hR : Alongside B R)
    (hran : ∀ {g h}, R g h → ∀ entry,
      R { g with ran := g.ran ++ [entry] } { h with ran := h.ran ++ [entry] })
    (hgh : R g h) (line : Text) : Agree R (g.hand line) (h.hand line) := by
  obtain ⟨x, g', h', hg, hh, hgames⟩ := (hR.interpret hgh line).exists_eq
  unfold Game.hand
  rw [hg, hh]
  rcases x with e | _
  · exact ⟨rfl, hran hgames _⟩
  · exact ⟨rfl, hran hgames _⟩

end Alongside

end Game

end GridRobot
