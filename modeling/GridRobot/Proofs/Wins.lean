import GridRobot.Proofs.Turns
import Mathlib.Data.List.Chain

/-!
# One win to a session

Reaching the target counts once per session. One turn calls on the policy for wins exactly when the
session becomes won, with the robot on the target and the win just announced, and a session that is
won stays so until a reset succeeds (`Session.OneShot`, `Turn.oneShot`). Hence the wins that have
been counted, with the one that is still to come in a session not yet won, never grow faster than
the number of the session (`OneShot.inStep`), and between two resets that succeed there is at most
one win (`win_once_per_session`).

All this holds of everything that can be asked of a game (`Request`): operations, messages, and
paced runs with any events.
-/

namespace GridRobot

/-! ## Requests -/

/-- Everything that can be asked of a game. -/
inductive Request where
  | operate (op : Operation)
  /-- Reports a message to the console. -/
  | log (message : Text) (isError : Bool)
  /-- Starts the scheduler and services events. -/
  | run (events : List RunEvent)
  deriving DecidableEq, Repr, Inhabited

namespace Game

open Session (Turns)

/-- The game after a request. -/
def serve (g : Game) : Request → Game
  | .operate op => g.perform op
  | .log message isError => { g with session := g.session.log message isError }
  | .run events => (g.run (fun _ => ()) events).2.2

/-- The game after a number of requests. -/
def serveAll (g : Game) (requests : List Request) : Game :=
  requests.foldl serve g

theorem turns_service {α : Type} (look : Game → α) (g : Game) (events : List RunEvent) :
    Turns (g.session.onWin ≠ .inert) g.session (g.service look events).2.2.session := by
  induction events generalizing g with
  | nil => exact .refl
  | cons event rest ih =>
    cases event with
    | clock => exact ih g.advanceClock
    | interrupt why => exact .refl
    | step =>
      have hstep := g.turns_step
      unfold service
      split
      · next h => rw [h] at hstep; exact hstep
      · next h => rw [h] at hstep; exact hstep
      · next h => rw [h] at hstep; exact hstep
      · next g' h =>
        rw [h] at hstep
        exact hstep.trans ((ih g').mono fun hp => hstep.setup_eq.2 ▸ hp)

theorem turns_serve (g : Game) (request : Request) :
    Turns True g.session (g.serve request).session := by
  cases request with
  | operate op => exact (g.turns_perform op).mono fun _ => trivial
  | log message isError => exact .single (.log _ _ _)
  | run events =>
    have hrun := g.start.turns_service (fun _ => ()) events
    exact g.turns_start.trans (hrun.mono fun _ => trivial)

theorem turns_serveAll (g : Game) (requests : List Request) :
    Turns True g.session (g.serveAll requests).session := by
  induction requests generalizing g with
  | nil => exact .refl
  | cons request requests ih => exact (g.turns_serve request).trans (ih (g.serve request))

end Game

/-! ## Wins along turns -/

namespace Session

variable {r : Prop} {s t : Session}

/-- What one change of a session has to do with winning. -/
structure OneShot (s t : Session) : Prop where
  /-- The policy for wins is called upon exactly when the session becomes won. -/
  called_iff : t.wins ≠ s.wins ↔ s.won = false ∧ t.won = true
  /-- Then the robot stands on the target of the board, and this was just said in this session. -/
  announced : t.wins ≠ s.wins → t.board = s.board ∧ t.board.atTarget = true ∧
    t.wins = s.wins ++ [t.board.robot] ∧
    t.journal = s.journal ++ [.console t.number winMessage false]
  /-- A session is no longer won only if a reset has succeeded. -/
  lost : s.won = true → t.won = false → s.reset = (.ok (), t)
  /-- A session has another number, the next one, only if a reset has succeeded. -/
  number : t.number = s.number ∨ (t.number = s.number + 1 ∧ s.reset = (.ok (), t))

/-- A change that counts no win, leaves the session as won as it was, and goes on in it. -/
theorem oneShot_of_eq (hwins : t.wins = s.wins) (hwon : t.won = s.won)
    (hnumber : t.number = s.number) : s.OneShot t where
  called_iff := by
    rw [hwins, hwon]
    simp
  announced hne := absurd hwins hne
  lost hs ht := by
    rw [hwon, hs] at ht
    cases ht
  number := .inl hnumber

theorem oneShot_win (ht : s.board.atTarget = true) (hw : s.won = false) : s.OneShot s.win where
  called_iff := by simp [win, say, log, note, hw]
  announced _ := ⟨rfl, ht, rfl, rfl⟩
  lost hs := by
    rw [hw] at hs
    cases hs
  number := .inl rfl

theorem oneShot_reset (s : Session) : s.OneShot s.reset.2 := by
  obtain ⟨b, -, h⟩ | ⟨e, -, h⟩ := reset_cases s
  · rw [h]
    refine ⟨?_, fun hne => absurd rfl hne, fun _ _ => h, .inr ⟨rfl, h⟩⟩
    simp [anew, say, log, note]
  · rw [h]
    exact oneShot_of_eq rfl rfl rfl

theorem Turn.oneShot (h : Turn r s t) : s.OneShot t := by
  cases h with
  | win ht hw => exact oneShot_win ht hw
  | reset => exact s.oneShot_reset
  | _ => exact oneShot_of_eq rfl rfl rfl

theorem number_of_reset (h : s.reset = (.ok (), t)) : t.number = s.number + 1 := by
  obtain ⟨b, -, hanew⟩ | ⟨e, -, hfail⟩ := reset_cases s
  · rw [h] at hanew
    cases hanew
    rfl
  · rw [h] at hfail
    cases hfail

/-- How many wins will have been counted when the current session is won. -/
def due (s : Session) : Nat :=
  s.wins.length + if s.won then 0 else 1

theorem due_of_won (h : s.won = true) : s.due = s.wins.length := by
  simp [due, h]

theorem due_of_not_won (h : s.won = false) : s.due = s.wins.length + 1 := by
  simp [due, h]

/-- The wins that are due become no more than the sessions that have begun. -/
def InStep (s t : Session) : Prop :=
  t.due + s.number ≤ s.due + t.number

instance : Trans InStep InStep InStep where
  trans hst htu := by
    unfold InStep at *
    omega

theorem OneShot.inStep (h : s.OneShot t) : s.InStep t := by
  have hnumber : s.number ≤ t.number := by
    rcases h.number with heq | ⟨hnext, -⟩ <;> omega
  unfold InStep
  by_cases hwins : t.wins = s.wins
  · cases hs : s.won <;> cases ht : t.won
    · rw [due_of_not_won hs, due_of_not_won ht, hwins]
      omega
    · exact absurd hwins (h.called_iff.2 ⟨hs, ht⟩)
    · -- a reset has succeeded, and the win that is now due is one of the next session
      rw [due_of_won hs, due_of_not_won ht, hwins, number_of_reset (h.lost hs ht)]
      omega
    · rw [due_of_won hs, due_of_won ht, hwins]
      omega
  · obtain ⟨hs, ht⟩ := h.called_iff.1 hwins
    have hlength : t.wins.length = s.wins.length + 1 := by
      rw [(h.announced hwins).2.2.1, List.length_append, List.length_singleton]
    rw [due_of_not_won hs, due_of_won ht, hlength]
    omega

theorem InStep.length_le (h : s.InStep t) (hnumber : t.number = s.number) :
    t.wins.length ≤ s.wins.length + 1 := by
  have hs : s.due ≤ s.wins.length + 1 := by
    unfold due
    split <;> omega
  have ht : t.wins.length ≤ t.due := Nat.le_add_right _ _
  unfold InStep at h
  omega

/-- Along turns, each one calls on the policy for wins as it should, and not twice in a session. -/
theorem isChain_oneShot {states : List Session} (h : states.IsChain (Turn r)) :
    states.IsChain OneShot ∧
      states.Pairwise fun s t => t.number = s.number → t.wins.length ≤ s.wins.length + 1 := by
  have hchain : states.IsChain OneShot := h.imp fun _ _ => Turn.oneShot
  have hpace : states.IsChain InStep := hchain.imp fun _ _ => OneShot.inStep
  exact ⟨hchain, hpace.pairwise.imp InStep.length_le⟩

theorem heed_wins (s : Session) : s.heed.wins = s.wins := by
  by_cases hpolicy : s.onWin = .inert
  · rw [heed_of_inert hpolicy]
  · rcases hboard : boardAt s.setup s.consulted with e | b
    · obtain ⟨notes, hnotes⟩ := exists_notes_heed_of_error hpolicy s.number e
      rw [hnotes s rfl rfl hboard]
    · rw [heed_of_ok hpolicy hboard]
      rfl

end Session

/-- Whatever is asked of a game, the session changes by turns. Each turn calls on the policy for
wins exactly if it makes the session won, with the robot on the target and the win just announced in
the current session, and only a reset that succeeds makes a session not won again. Between two
states of the same session the policy is called upon at most once. One look for a win calls on it at
most once, even if the policy puts the robot on a target again. -/
theorem win_once_per_session (g : Game) (requests : List Request) :
    (∃ states : List Session,
      (g.session :: states).IsChain (Session.Turn True) ∧
      (g.session :: states).getLast (List.cons_ne_nil _ states) = (g.serveAll requests).session ∧
      (g.session :: states).IsChain Session.OneShot ∧
      (g.session :: states).Pairwise fun s t =>
        t.number = s.number → t.wins.length ≤ s.wins.length + 1) ∧
    ∀ s : Session,
      s.checkWin.2 = (if s.board.atTarget = true ∧ s.won = false then s.win.heed else s) ∧
      s.win.heed.wins = s.wins ++ [s.board.robot] := by
  refine ⟨?_, fun s => ⟨s.checkWin_eq, s.win.heed_wins⟩⟩
  obtain ⟨states, hchain, hlast⟩ :=
    List.exists_isChain_cons_of_relationReflTransGen (g.turns_serveAll requests)
  exact ⟨states, hchain, hlast, Session.isChain_oneShot hchain⟩

end GridRobot
