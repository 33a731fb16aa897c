import GridRobot.Proofs.Turns

/-!
# Lines that fail

A line fails before it has done anything but look at its conditions. Where the policy for wins
leaves the session alone, looking at a condition can do no more than count a win for a robot that
stands on the target (`Session.WinOnly`), so that this, and what is logged, is all that a failed
line leaves behind (`failed_line_changes_nothing`).
-/

open Relation (ReflTransGen)

namespace GridRobot

namespace Session

variable {s t u : Session}

/-- The same session but for its journal, and for a win if the robot stands on the target. -/
structure WinOnly (s t : Session) : Prop where
  frame : t = { s with won := t.won, wins := t.wins, journal := t.journal }
  win : (t.won = s.won ∧ t.wins = s.wins) ∨
    (s.won = false ∧ t.won = true ∧ s.board.atTarget = true ∧ t.wins = s.wins ++ [s.board.robot])

theorem WinOnly.refl (s : Session) : s.WinOnly s := ⟨rfl, .inl ⟨rfl, rfl⟩⟩

theorem WinOnly.board_eq (h : s.WinOnly t) : t.board = s.board := by
  rw [h.frame]

theorem WinOnly.onWin_eq (h : s.WinOnly t) : t.onWin = s.onWin := by
  rw [h.frame]

theorem WinOnly.trans (hst : s.WinOnly t) (htu : t.WinOnly u) : s.WinOnly u := by
  refine ⟨?_, ?_⟩
  · rw [htu.frame, hst.frame]
  · have hboard := hst.board_eq
    rcases hst.win with ⟨hwon, hwins⟩ | ⟨hnot, hwon, htarget, hwins⟩
    · simpa only [hwon, hwins, hboard] using htu.win
    · -- a session that has won wins no more
      rcases htu.win with ⟨hwon', hwins'⟩ | ⟨hnot', -⟩
      · exact .inr ⟨hnot, hwon'.trans hwon, htarget, hwins'.trans hwins⟩
      · rw [hwon] at hnot'
        cases hnot'

theorem winOnly_log (s : Session) (message : Text) (isError : Bool) :
    s.WinOnly (s.log message isError) :=
  ⟨rfl, .inl ⟨rfl, rfl⟩⟩

theorem winOnly_checkWin (hpolicy : s.onWin = .inert) : s.WinOnly s.checkWin.2 := by
  rw [checkWin_of_inert hpolicy]
  split_ifs with hwin
  · exact ⟨rfl, .inr ⟨hwin.2, rfl, hwin.1, rfl⟩⟩
  · exact .refl s

end Session

namespace Game

variable {g h : Game}

/-- The same game but for the journal and for a win. -/
structure WinOnly (g h : Game) : Prop where
  session : g.session.WinOnly h.session
  scheduler_eq : h.scheduler = g.scheduler
  ran_eq : h.ran = g.ran

theorem WinOnly.refl (g : Game) : g.WinOnly g := ⟨.refl _, rfl, rfl⟩

theorem WinOnly.trans {k : Game} (hgh : g.WinOnly h) (hhk : h.WinOnly k) : g.WinOnly k :=
  ⟨hgh.session.trans hhk.session, hhk.scheduler_eq.trans hgh.scheduler_eq,
    hhk.ran_eq.trans hgh.ran_eq⟩

theorem winOnly_log (g : Game) (message : Text) (isError : Bool) :
    g.WinOnly { g with session := g.session.log message isError } :=
  ⟨g.session.winOnly_log message isError, rfl, rfl⟩

theorem winOnly_evalCondition (hpolicy : g.session.onWin = .inert) (condition expected : Text) :
    g.WinOnly (g.evalCondition condition expected).2 := by
  rcases g.evalCondition_cases condition expected with hsame | hcheck
  · rw [hsame]
    exact .refl g
  · rw [hcheck]
    exact ⟨Session.winOnly_checkWin hpolicy, rfl, rfl⟩

/-- Conditions that hold do no more than count a win. -/
theorem winOnly_of_passes (hpolicy : g.session.onWin = .inert) (hpass : ReflTransGen Pass g h) :
    g.WinOnly h := by
  induction hpass with
  | refl => exact .refl g
  | @tail k _ _ hlast ih =>
    have hpolicy' : k.session.onWin = .inert := ih.session.onWin_eq.trans hpolicy
    cases hlast with
    | @holds _ condition expected action heval =>
      have hcond := winOnly_evalCondition hpolicy' condition expected
      rw [heval] at hcond
      exact (ih.trans hcond).trans (winOnly_log _ _ false)

end Game

/-- Where the policy for wins leaves the session alone, a line that fails changes nothing but the
journal: the board, the variables, the number of the session and the scheduler are as before,
however many conditions came before the failure. Only a win may have been counted, if there was none
yet and the robot stands on the target. -/
theorem failed_line_changes_nothing {g h : Game} {line : Text} {e : CommandError}
    (hpolicy : g.session.onWin = .inert) (hfail : g.interpret line = (.error e, h)) :
    h = { g with session := { g.session with
      won := h.session.won, wins := h.session.wins, journal := h.session.journal } } ∧
    ((h.session.won = g.session.won ∧ h.session.wins = g.session.wins) ∨
      (g.session.won = false ∧ h.session.won = true ∧ g.session.board.atTarget = true ∧
        h.session.wins = g.session.wins ++ [g.session.board.robot])) := by
  obtain ⟨k, hpass, ⟨l, -, hok⟩ | ⟨e', hfail'⟩⟩ := g.interpret_cases line
  · rw [hfail] at hok
    cases hok
  · rw [hfail] at hfail'
    obtain ⟨-, rfl⟩ := Prod.mk.inj hfail'
    have hwin := (Game.winOnly_of_passes hpolicy hpass).trans (k.winOnly_log e'.message true)
    refine ⟨?_, hwin.session.win⟩
    rw [← hwin.session.frame, ← hwin.scheduler_eq, ← hwin.ran_eq]

/-- During a run, a line whose condition holds and wins, and whose action then leads off the
board. -/
theorem failed_action_after_win_changes_nothing :
    ∃ s, Session.start (.fixed ⟨2, ⟨0, 0⟩, ⟨0, 0⟩, [⟨1, 1⟩]⟩) .inert = .ok s ∧
      ∃ e h, ((Game.ofSession s).attach (.new [] .second .second)).start.interpret
          (Text.ofString "SE ROBO META MOVER CIMA 1") = (.error e, h) ∧
        h.session.won = true ∧ h.session.board = s.board ∧ h.running = true := by
  have hs : Session.start (.fixed ⟨2, ⟨0, 0⟩, ⟨0, 0⟩, [⟨1, 1⟩]⟩) .inert = .ok _ := rfl
  refine ⟨_, hs, ?_⟩
  generalize hg : Game.start _ = g
  have hout : (g.interpret (Text.ofString "SE ROBO META MOVER CIMA 1")).1.isOk = false ∧
      (g.interpret (Text.ofString "SE ROBO META MOVER CIMA 1")).2.session.won = true := by
    rw [← hg]
    decide +kernel
  rcases hrun : g.interpret (Text.ofString "SE ROBO META MOVER CIMA 1") with ⟨e | _, h⟩
  · rw [hrun] at hout
    obtain ⟨hframe, -⟩ := failed_line_changes_nothing (by rw [← hg]; rfl) hrun
    refine ⟨e, h, rfl, hout.2, ?_, ?_⟩
    · rw [hframe, ← hg]
      rfl
    · rw [hframe, ← hg]
      rfl
  · rw [hrun] at hout
    cases hout.1

end GridRobot
