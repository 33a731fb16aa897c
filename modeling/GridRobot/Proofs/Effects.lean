import GridRobot.Proofs.Failure
import GridRobot.Proofs.Moves
import GridRobot.Proofs.Runs
import GridRobot.Proofs.Wins

/-!
# One effect to a line

Where the policy for wins leaves the session alone, a line does at most one thing: it sets one
variable, or moves the robot along a straight line, or starts the scheduler (`Game.Effect`). The
conditions in front of its last command can only count a win, and so everything that a line does
but for its messages is done by that command (`Game.effect_interpret`).

A win may be counted before the last command and after it, so that `Game.Aside` leaves the wins
open; what a line leaves as it was is the rest of the game.
-/

open Relation (ReflTransGen)

namespace GridRobot

/-! ## Variables -/

namespace Env

theorem lookup_insertEntry (name other : Text) (value : Int64) (entries : List (Text × Int64)) :
    (insertEntry name value entries).lookup other =
      if other = name then some value else entries.lookup other := by
  induction entries with
  | nil =>
    by_cases h : other = name
    · simp [insertEntry, h]
    · simp [insertEntry, List.lookup_cons, beq_false_of_ne h, h]
  | cons entry rest ih =>
    obtain ⟨key, kept⟩ := entry
    by_cases hname : name = key
    · subst hname
      by_cases h : other = name
      · simp [insertEntry, h]
      · simp [insertEntry, List.lookup_cons, beq_false_of_ne h, h]
    · by_cases hlt : name < key
      · by_cases h : other = name
        · simp [insertEntry, hname, hlt, h]
        · simp [insertEntry, List.lookup_cons, hname, hlt, beq_false_of_ne h, h]
      · -- the entry goes behind this one, which does not have its name
        by_cases hkey : other = key
        · simp [insertEntry, hname, hlt, hkey, Ne.symm hname]
        · simp [insertEntry, List.lookup_cons, hname, hlt, beq_false_of_ne hkey, ih]

theorem get?_set (env : Env) (name other : Text) (value : Int64) :
    (env.set name value).get? other = if other = name then some value else env.get? other :=
  lookup_insertEntry name other value env.entries

/-- Whether a variable of a name was set. -/
def Defines (env : Env) (name : Text) : Prop :=
  ∃ value, env.get? name = some value

theorem Defines.set {env : Env} {name : Text} (h : env.Defines name) (other : Text)
    (value : Int64) : (env.set other value).Defines name := by
  obtain ⟨kept, hkept⟩ := h
  by_cases hname : name = other
  · exact ⟨value, by rw [get?_set, if_pos hname]⟩
  · exact ⟨kept, by rw [get?_set, if_neg hname, hkept]⟩

end Env

/-! ## Effects -/

namespace Game

variable {g h k : Game}

/-- The same game but for what was logged and which wins were counted. -/
def Aside (g h : Game) : Prop :=
  h = { g with session := { g.session with
    won := h.session.won, wins := h.session.wins, journal := h.session.journal } }

theorem Aside.refl (g : Game) : g.Aside g := rfl

theorem Aside.trans (hgh : g.Aside h) (hhk : h.Aside k) : g.Aside k := by
  unfold Aside at hgh hhk ⊢
  rw [hhk, hgh]

theorem WinOnly.aside (hgh : g.WinOnly h) : g.Aside h := by
  unfold Aside
  rw [← hgh.session.frame, ← hgh.scheduler_eq, ← hgh.ran_eq]

theorem aside_log (g : Game) (message : Text) (isError : Bool) :
    g.Aside { g with session := g.session.log message isError } :=
  (g.winOnly_log message isError).aside

theorem aside_foldl_say (g : Game) (messages : List Text) : g.Aside (messages.foldl say g) := by
  induction messages generalizing g with
  | nil => exact .refl g
  | cons m messages ih => exact (g.aside_log m false).trans (ih (g.say m))

/-- What a line can do to a game: at most one thing. -/
inductive Effect (g h : Game) : Prop where
  /-- One variable is set. -/
  | assign (name : Text) (value : Int64) (hset : h.session.env.get? name = some value)
      (hothers : ∀ other, other ≠ name → h.session.env.get? other = g.session.env.get? other)
      (hrest : Aside { g with session := { g.session with env := h.session.env } } h)
  /-- The robot moves straight ahead to a free cell. -/
  | move (d : Direction) (k : Nat) (hpos : 0 < k)
      (hahead : g.session.board.robot.Ahead d k h.session.board.robot)
      (hfree : g.session.board.isFree h.session.board.robot = true)
      (hrest : Aside { g with session := { g.session with
        board := { g.session.board with robot := h.session.board.robot } } } h)
  /-- The scheduler is asked to start, and nothing else has changed before or does so then. -/
  | start {k : Game} (hbefore : g.Aside k) (hstart : h = k.start)
      (hboard : h.session.board = g.session.board) (henv : h.session.env = g.session.env)
  | nothing (hrest : g.Aside h)

theorem start_frame (g : Game) : ∃ journal scheduler,
    g.start = { g with session := { g.session with journal }, scheduler } := by
  unfold start
  split
  · exact ⟨g.session.journal, g.scheduler, rfl⟩
  · split_ifs
    · exact ⟨_, g.scheduler, rfl⟩
    · exact ⟨_, _, rfl⟩

/-- What comes before in a line does not count as long as it leaves the game alone. -/
theorem Effect.of_aside (hgh : g.Aside h) (heffect : Effect h k) : Effect g k := by
  unfold Aside at hgh
  cases heffect with
  | assign name value hset hothers hrest =>
    rw [hgh] at hothers hrest
    exact .assign name value hset hothers hrest
  | move d n hpos hahead hfree hrest =>
    rw [hgh] at hahead hfree hrest
    exact .move d n hpos hahead hfree hrest
  | start hbefore hstart hboard henv =>
    rw [hgh] at hboard henv
    exact .start (Aside.trans hgh hbefore) hstart hboard henv
  | nothing hrest => exact .nothing (Aside.trans hgh hrest)

theorem effect_assign (g : Game) (name : Text) (value : Int64) (message : Text) :
    Effect g { g with
      session := { g.session with env := g.session.env.set name value }.say message } := by
  refine .assign name value ?_ (fun other hother => ?_) rfl
  · exact (g.session.env.get?_set name name value).trans (if_pos rfl)
  · exact (g.session.env.get?_set name other value).trans (if_neg hother)

theorem effect_move {d : Direction} {n : Int64} {b : Board} (hpolicy : g.session.onWin = .inert)
    (hvalid : g.session.board.Valid) (hmove : g.session.board.move d n = .ok b) :
    Effect g { g with session := (g.session.arrive b).checkWin.2 } := by
  have hrest : Aside { g with session := { g.session with board := b } }
      { g with session := (g.session.arrive b).checkWin.2 } := by
    have harrive : Aside { g with session := { g.session with board := b } }
        { g with session := g.session.arrive b } := rfl
    have hwin : WinOnly { g with session := g.session.arrive b }
        { g with session := (g.session.arrive b).checkWin.2 } :=
      ⟨Session.winOnly_checkWin hpolicy, rfl, rfl⟩
    exact harrive.trans hwin.aside
  have hboard : (g.session.arrive b).checkWin.2.board = b :=
    (Session.winOnly_checkWin (s := g.session.arrive b) hpolicy).board_eq
  rcases hvalid.move_cases hmove with rfl | ⟨k, hpos, hahead, hfree, hb⟩
  · exact .nothing hrest
  · refine .move d k hpos ?_ ?_ ?_
    · rwa [hboard]
    · rwa [hboard]
    · rwa [hboard, ← hb]

theorem effect_ending (hpolicy : g.session.onWin = .inert) (hvalid : g.session.board.Valid)
    {outcome : Outcome} (hend : Ending g outcome) : Effect g outcome.2 := by
  cases hend with
  | fail => exact .nothing (.refl g)
  | @unmet k condition expected heval =>
    have hcond := winOnly_evalCondition hpolicy condition expected
    rw [heval] at hcond
    exact .nothing (hcond.aside.trans (k.aside_log _ false))
  | assign name value => exact g.effect_assign name value _
  | move hmove => exact effect_move hpolicy hvalid hmove
  | help => exact .nothing (g.aside_foldl_say helpText)
  | list => exact .nothing (g.aside_foldl_say _)
  | start =>
    obtain ⟨journal, scheduler, hstart⟩ := g.start_frame
    exact .start (.refl g) rfl (by rw [hstart]) (by rw [hstart])

/-- A line has one effect, that of its last command. -/
theorem effect_interpret (hpolicy : g.session.onWin = .inert) (hvalid : g.session.board.Valid)
    (line : Text) : Effect g (g.interpret line).2 := by
  obtain ⟨h, hpass, hend⟩ := g.interpret_cases line
  have hwin : g.session.WinOnly h.session := (winOnly_of_passes hpolicy hpass).session
  have hbefore : g.Aside h := (winOnly_of_passes hpolicy hpass).aside
  rcases hend with ⟨k, hend, hok⟩ | ⟨e, hfail⟩
  · have hvalid' : h.session.board.Valid := by
      rw [hwin.board_eq]
      exact hvalid
    have hlast := effect_ending (hwin.onWin_eq.trans hpolicy) hvalid' hend
    rw [hok]
    exact .of_aside hbefore hlast
  · rw [hfail]
    exact .nothing (hbefore.trans (h.aside_log e.message true))

end Game

/-! ## Names that stay defined -/

namespace Session

variable {r : Prop} {s t : Session} {name : Text}

theorem Turn.defines (h : Turn r s t) (hr : ¬ r) (hs : s.env.Defines name) :
    t.env.Defines name := by
  cases h with
  | assign other value => exact hs.set other value
  | reset hreset => exact absurd hreset hr
  | _ => exact hs

theorem Turn.number_eq (h : Turn r s t) (hr : ¬ r) : t.number = s.number := by
  cases h with
  | reset hreset => exact absurd hreset hr
  | _ => rfl

theorem Turns.defines (h : Turns r s t) (hr : ¬ r) (hs : s.env.Defines name) :
    t.env.Defines name :=
  Turns.keep (P := fun u => u.env.Defines name) (fun _ _ hturn => hturn.defines hr) h hs

theorem Turns.number_eq (h : Turns r s t) (hr : ¬ r) : t.number = s.number :=
  Turns.keep (P := fun u => u.number = s.number) (fun _ _ hturn hu => (hturn.number_eq hr).trans hu)
    h rfl

end Session

/-- In every state of a run whose policy for wins leaves the session alone, a line does at most one
thing: it sets one variable, or moves the robot straight ahead to a free cell, or starts the
scheduler. The rest of the game but for its journal and its wins, among it the ground of the board
and the number of the session, is as before. Until the next reset no name is lost. -/
theorem line_has_one_effect {setup : Setup} {s : Session}
    (h : Session.start setup .inert = .ok s) (scheduler : Option Scheduler)
    (requests : List Request) :
    let g := (Game.mk s scheduler []).serveAll requests
    (∀ line, g.Effect (g.interpret line).2 ∧
      g.session.board.SameGround (g.interpret line).2.session.board ∧
      (g.interpret line).2.session.number = g.session.number) ∧
    ∀ ops : List Operation, (∀ op ∈ ops, ¬ op.Resets) → ∀ name,
      g.session.env.Defines name → (g.after ops).session.env.Defines name := by
  intro g
  have hfresh := Session.fresh_of_start h
  have hturns := (Game.mk s scheduler []).turns_serveAll requests
  have hvalid : g.session.board.Valid := hturns.valid hfresh.valid
  have hinert : g.session.onWin = .inert := hturns.setup_eq.2.trans hfresh.onWin_eq
  have hpolicy : ¬ g.session.onWin ≠ .inert := not_not_intro hinert
  constructor
  · intro line
    have hline := g.turns_interpret line
    exact ⟨Game.effect_interpret hinert hvalid line, hline.sameGround hpolicy,
      hline.number_eq hpolicy⟩
  · intro ops hops name hname
    refine (g.turns_after ops).defines ?_ hname
    rintro (hreset | ⟨op, hop, hreset⟩)
    · exact hpolicy hreset
    · exact hops op hop hreset

/-- A line with two conditions, the first of which counts a win, moves the robot by a variable. -/
theorem nested_move_has_one_effect :
    let line := Text.ofString "SE ROBO META SE OBSTACULO BAIXO MOVER DIREITA a"
    ∃ s, Session.start (.fixed ⟨3, ⟨0, 0⟩, ⟨0, 0⟩, [⟨1, 0⟩]⟩) .inert = .ok s ∧
      let g := (Game.mk s none []).serveAll [.operate (.interpret (Text.ofString "VAR a 2"))]
      g.Effect (g.interpret line).2 ∧ (g.interpret line).2.session.board.robot = ⟨0, 2⟩ ∧
        (g.interpret line).2.session.won = true ∧
        (g.after [.interpret line, .checkWin]).session.env.Defines (Text.ofString "a") := by
  intro line
  have h : Session.start (.fixed ⟨3, ⟨0, 0⟩, ⟨0, 0⟩, [⟨1, 0⟩]⟩) .inert = .ok _ := rfl
  refine ⟨_, h, ?_⟩
  intro g
  have heffect := line_has_one_effect h none [.operate (.interpret (Text.ofString "VAR a 2"))]
  have hname : g.session.env.Defines (Text.ofString "a") := ⟨2, by decide +kernel⟩
  have hops : ∀ op ∈ [Operation.interpret line, .checkWin], ¬ op.Resets := by
    simp [Operation.Resets]
  exact ⟨(heffect.1 line).1, by decide +kernel, by decide +kernel, heffect.2 _ hops _ hname⟩

end GridRobot
