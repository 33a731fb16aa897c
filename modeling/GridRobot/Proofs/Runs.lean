import GridRobot.Proofs.Reach
import GridRobot.Proofs.Turns
import Mathlib.Data.List.Chain

/-!
# Boards along runs

The ground of a board is everything but the robot: its size, its cells, the target and the list of
obstacles. No turn but a reset that succeeds lays new ground (`Turn.sameGround_or_reset`), and the
board is in order after every turn (`Turn.valid`). Hence it is in order all the way through every
run of operations, inside of lines and of win policies too (`boards_in_order`).
-/

namespace GridRobot

namespace Session

variable {r : Prop} {s t : Session} {setup : Setup} {onWin : WinPolicy}

theorem valid_of_boardAt {n : Nat} {b : Board} (h : boardAt setup n = .ok b) : b.Valid := by
  unfold boardAt at h
  rcases hl : setup n with e | l
  · rw [hl] at h; cases h
  · rw [hl] at h
    rcases hb : Board.ofLayout l with e | c
    · simp [hb, Except.mapError] at h
    · simp only [hb, Except.mapError, Except.ok.injEq] at h
      exact h ▸ Board.valid_of_ofLayout hb

/-- What is known of a session that has just begun. -/
structure Fresh (setup : Setup) (onWin : WinPolicy) (s : Session) : Prop where
  setup_eq : s.setup = setup
  onWin_eq : s.onWin = onWin
  boardAt_eq : boardAt setup 0 = .ok s.board
  consulted_eq : s.consulted = 1
  number_eq : s.number = 1
  env_eq : s.env = .empty
  won_eq : s.won = false
  journal_eq : s.journal = []

theorem fresh_of_start (h : start setup onWin = .ok s) : Fresh setup onWin s := by
  unfold start at h
  rcases hb : boardAt setup 0 with e | b
  · rw [hb] at h; cases h
  · rw [hb] at h; cases h
    exact ⟨rfl, rfl, hb, rfl, rfl, rfl, rfl, rfl⟩

theorem exists_start_iff :
    (∃ s, start setup onWin = .ok s) ↔ ∃ b, boardAt setup 0 = .ok b := by
  unfold start
  rcases boardAt setup 0 with e | b <;> simp [Except.map]

theorem Fresh.valid (h : Fresh setup onWin s) : s.board.Valid :=
  valid_of_boardAt h.boardAt_eq

/-- Only a reset that succeeds lays new ground. -/
theorem Turn.sameGround_or_reset (h : Turn r s t) :
    s.board.SameGround t.board ∨ (r ∧ s.reset = (.ok (), t)) := by
  cases h with
  | move h => exact .inl (Board.sameGround_of_move h)
  | reset hr =>
    obtain ⟨b, -, h⟩ | ⟨e, -, h⟩ := reset_cases s <;> rw [h]
    · exact .inr ⟨hr, rfl⟩
    · exact .inl (.refl _)
  | _ => exact .inl (.refl _)

theorem Turn.valid (h : Turn r s t) (hs : s.board.Valid) : t.board.Valid := by
  cases h with
  | move h => exact hs.of_move h
  | reset =>
    obtain ⟨b, hb, h⟩ | ⟨e, -, h⟩ := reset_cases s <;> rw [h]
    · exact valid_of_boardAt hb
    · exact hs
  | _ => exact hs

theorem Turns.valid (h : Turns r s t) (hs : s.board.Valid) : t.board.Valid :=
  Turns.keep (P := fun u => u.board.Valid) (fun _ _ => Turn.valid) h hs

theorem Turns.sameGround (h : Turns r s t) (hr : ¬ r) : s.board.SameGround t.board := by
  refine Turns.keep (P := fun u => s.board.SameGround u.board) (fun u v hturn hu => ?_) h (.refl _)
  rcases hturn.sameGround_or_reset with hg | ⟨hreset, -⟩
  · exact hu.trans hg
  · exact absurd hreset hr

/-- As long as no new ground is laid, the robot goes along free cells. -/
theorem Turns.path (h : Turns r s t) (hr : ¬ r) (hs : s.board.Valid) :
    s.board.Path s.board.robot t.board.robot := by
  induction h with
  | refl => exact .refl
  | @tail u v hsu hturn ih =>
    have hground : s.board.SameGround u.board := Turns.sameGround hsu hr
    cases hturn with
    | move hmove =>
      exact ih.trans (hground.path_iff.1 (Board.path_of_move (Turns.valid hsu hs) hmove))
    | reset hreset => exact absurd hreset hr
    | _ => exact ih

/-- The states that turns lead through, all of them with their boards in order. -/
theorem Turns.exists_history (h : Turns r s t) (hs : s.board.Valid) :
    ∃ states : List Session,
      (s :: states).IsChain (Turn r) ∧ (s :: states).getLast (List.cons_ne_nil s states) = t ∧
      (∀ u ∈ s :: states, u.board.Valid) ∧
      (s :: states).IsChain fun u v => u.board.SameGround v.board ∨ u.reset = (.ok (), v) := by
  obtain ⟨states, hchain, hlast⟩ := List.exists_isChain_cons_of_relationReflTransGen h
  refine ⟨states, hchain, hlast, ?_, hchain.imp fun u v hturn => ?_⟩
  · exact hchain.induction (fun u => u.board.Valid) _ (fun _ _ => Turn.valid) (fun _ => hs)
  · exact hturn.sameGround_or_reset.imp_right And.right

end Session

/-- The board is in order in every state of every run of operations. In any stretch of a run the
session goes through states with boards in order, and its ground changes only by resets that
succeed, which an operation or the win policy asked for. -/
theorem boards_in_order {setup : Setup} {onWin : WinPolicy} {s : Session}
    (h : Session.start setup onWin = .ok s) (scheduler : Option Scheduler)
    (ops later : List Operation) :
    let g := (Game.mk s scheduler []).after ops
    g.session.board.Valid ∧
      (∃ states : List Session,
        (g.session :: states).IsChain
          (Session.Turn (onWin ≠ .inert ∨ ∃ op ∈ later, op.Resets)) ∧
        (g.session :: states).getLast (List.cons_ne_nil _ states) = (g.after later).session ∧
        (∀ t ∈ g.session :: states, t.board.Valid) ∧
        (g.session :: states).IsChain fun t u =>
          t.board.SameGround u.board ∨ t.reset = (.ok (), u)) ∧
      (onWin = .inert → (∀ op ∈ later, ¬ op.Resets) →
        g.session.board.SameGround (g.after later).session.board) := by
  intro g
  have hfresh := Session.fresh_of_start h
  have hearlier := (Game.mk s scheduler []).turns_after ops
  have hvalid : g.session.board.Valid := hearlier.valid hfresh.valid
  have hpolicy : g.session.onWin = onWin := hearlier.setup_eq.2.trans hfresh.onWin_eq
  have hlater := g.turns_after later
  rw [hpolicy] at hlater
  refine ⟨hvalid, hlater.exists_history hvalid, fun hinert hops => hlater.sameGround ?_⟩
  rintro (hreset | ⟨op, hop, hreset⟩)
  · exact hreset hinert
  · exact hops op hop hreset

/-- A win whose reset fails, followed by a reset that succeeds. -/
theorem board_in_order_after_failed_reset :
    ∃ s, Session.start (.ofAnswers [.ok ⟨3, ⟨0, 0⟩, ⟨0, 1⟩, [⟨1, 1⟩, ⟨1, 1⟩]⟩, .error (.failed []),
        .ok ⟨2, ⟨1, 0⟩, ⟨0, 1⟩, [⟨0, 0⟩]⟩]) .reset = .ok s ∧
      ((Game.mk s none []).after
        [.interpret (Text.ofString "MOVER DIREITA 1"), .resetSession]).session.board.Valid := by
  have h : Session.start (.ofAnswers [.ok ⟨3, ⟨0, 0⟩, ⟨0, 1⟩, [⟨1, 1⟩, ⟨1, 1⟩]⟩,
      .error (.failed []), .ok ⟨2, ⟨1, 0⟩, ⟨0, 1⟩, [⟨0, 0⟩]⟩]) .reset = .ok _ := rfl
  exact ⟨_, h, (boards_in_order h none _ []).1⟩

end GridRobot
