import GridRobot.Proofs.Lockstep
import GridRobot.Proofs.RunSteps

/-!
# What resets leave behind

A reset of the run that succeeds leaves nothing of what was before: with a fixed setup the game goes
on like one that has just begun, but for the numbers of its sessions (`reset_erases_history`). A
reset that fails leaves nothing of itself: without it, and without the answer that the setup gave
it, the rest of the run is the same (`failed_reset_leaves_no_trace`).

Both compare two runs by a relation of their sessions. In the first it says that a session repeats
another with higher numbers (`Session.Repeats`), in the second that sessions are the same but for
the setup, whose answers to come are the same (`Session.Follows`).
-/

namespace GridRobot

/-! ## The scheduler before a run -/

/-- The scheduler stopped and back at the start of the script. -/
def Scheduler.rewound (s : Scheduler) : Scheduler :=
  { s with running := false, cursor := 0, elapsed := .zero }

namespace Game

variable {g h : Game}

/-- What is the same of the schedulers of a game whatever is asked of it. -/
def SamePlan (g h : Game) : Prop :=
  h.scheduler.map Scheduler.rewound = g.scheduler.map Scheduler.rewound

theorem samePlan_start (g : Game) : g.SamePlan g.start := by
  unfold SamePlan start
  split
  · rfl
  · next hs =>
    rw [hs]
    split_ifs <;> rfl

theorem onward_samePlan : Onward SamePlan where
  refl _ := rfl
  trans hgh hhk := hhk.trans hgh
  log _ _ _ _ := rfl
  assign _ _ _ := rfl
  move _ := rfl
  checkWin _ := rfl
  start := samePlan_start

theorem samePlan_stop (g : Game) : g.SamePlan g.stop := by
  unfold SamePlan stop
  cases g.scheduler <;> rfl

theorem samePlan_step (g : Game) : g.SamePlan g.step.2 := by
  unfold SamePlan
  cases hs : g.scheduler with
  | none => simp [step, hs]
  | some s =>
    cases hrun : s.running with
    | false => rw [step_of_stopped hs hrun, hs]
    | true =>
      cases hdrop : s.script.drop s.cursor with
      | nil =>
        rw [step_of_done hs hrun hdrop]
        rfl
      | cons line rest =>
        rw [step_of_line hs hrun hdrop, (g.takeLine_spec hrun line).1]
        rfl

theorem samePlan_service {α : Type} (look : Game → α) (g : Game) (events : List RunEvent) :
    g.SamePlan (g.service look events).2.2 := by
  induction events generalizing g with
  | nil => exact onward_samePlan.refl g
  | cons event rest ih =>
    cases event with
    | clock =>
      refine onward_samePlan.trans (?_ : g.SamePlan g.advanceClock) (ih g.advanceClock)
      unfold SamePlan advanceClock
      cases g.scheduler <;> rfl
    | interrupt why => exact g.samePlan_stop
    | step =>
      have hstep := g.samePlan_step
      unfold service
      split
      · next htick => rwa [htick] at hstep
      · next htick => rwa [htick] at hstep
      · next htick => rwa [htick] at hstep
      · next k htick =>
        rw [htick] at hstep
        exact onward_samePlan.trans hstep (ih k)

theorem samePlan_perform (g : Game) (op : Operation) : g.SamePlan (g.perform op) := by
  cases op with
  | interpret line => exact onward_samePlan.interpret g line
  | resetSession => exact onward_samePlan.refl g
  | checkWin => exact onward_samePlan.checkWin g
  | evalCondition condition expected => exact onward_samePlan.evalCondition g condition expected
  | setVariable name value => exact onward_samePlan.assign g name value
  | runDirect lines => exact onward_samePlan.runDirect (fun g _ => onward_samePlan.refl g) g lines
  | start => exact g.samePlan_start
  | stop => exact g.samePlan_stop
  | step => exact g.samePlan_step
  | resetRun =>
    unfold SamePlan perform resetRun
    cases g.scheduler <;> rfl

theorem samePlan_serve (g : Game) (request : Request) : g.SamePlan (g.serve request) := by
  cases request with
  | operate op => exact g.samePlan_perform op
  | log message isError => exact onward_samePlan.refl g
  | run events => exact onward_samePlan.trans g.samePlan_start (g.start.samePlan_service _ events)

theorem samePlan_serveAll (g : Game) (requests : List Request) :
    g.SamePlan (g.serveAll requests) := by
  induction requests generalizing g with
  | nil => exact onward_samePlan.refl g
  | cons request requests ih =>
    exact onward_samePlan.trans (g.samePlan_serve request) (ih (g.serve request))

end Game

/-! ## Resets that succeed -/

/-- The entry of a session whose number is `d` higher. -/
def Log.Entry.renumber (d : Nat) (e : Log.Entry Nat) : Log.Entry Nat :=
  { e with session := e.session + d }

/-- What is seen of a request where the numbers of sessions are `d` higher. -/
def View.renumber (d : Nat) (v : View) : View :=
  { v with number := v.number + d, entries := v.entries.map (.renumber d) }

namespace Session

variable {b : Board} {d : Nat} {earlier : List (Log.Entry Nat)} {s t : Session}

/-- Sessions of setups that give nothing but the board `b`, of which the second repeats the first
with numbers that are `d` higher, after some earlier entries. -/
structure Repeats (b : Board) (d : Nat) (earlier : List (Log.Entry Nat)) (s t : Session) :
    Prop where
  left_inert : s.onWin = .inert
  right_inert : t.onWin = .inert
  left_boards : ∀ n, boardAt s.setup n = .ok b
  right_boards : ∀ n, boardAt t.setup n = .ok b
  board_eq : t.board = s.board
  env_eq : t.env = s.env
  won_eq : t.won = s.won
  number_eq : t.number = s.number + d
  transcript_eq : t.transcript = earlier ++ s.transcript.map (.renumber d)

theorem Repeats.log (h : Repeats b d earlier s t) (message : Text) (isError : Bool) :
    Repeats b d earlier (s.log message isError) (t.log message isError) := by
  refine { h with transcript_eq := ?_ }
  simp [h.transcript_eq, h.number_eq, Log.Entry.renumber]

theorem twins_repeats (b : Board) (d : Nat) (earlier : List (Log.Entry Nat)) :
    Twins (Repeats b d earlier) where
  board_eq h := h.board_eq
  env_eq h := h.env_eq
  won_eq h := h.won_eq
  log h := h.log
  debug h message attrs := by
    refine { h with transcript_eq := ?_ }
    rw [transcript_debug, transcript_debug, h.transcript_eq]
  assign h env := { h with env_eq := rfl }
  place h board := { h with board_eq := rfl }
  checkWin {s t} h := by
    rw [checkWin_of_inert h.left_inert, checkWin_of_inert h.right_inert, h.board_eq, h.won_eq]
    split_ifs
    · have hwin : Repeats b d earlier { s with won := true } { t with won := true } :=
        { h with won_eq := rfl }
      exact { hwin.log winMessage false with }
    · exact h

theorem Repeats.resetAlike (h : Repeats b d earlier s t) :
    ResetAlike (Repeats b d earlier) s t := by
  unfold ResetAlike
  rw [reset_of_ok (h.left_boards _), reset_of_ok (h.right_boards _)]
  have hnew : Repeats b d earlier
      { s with
        board := b, consulted := s.consulted + 1, number := s.number + 1, won := false
        env := .empty }
      { t with
        board := b, consulted := t.consulted + 1, number := t.number + 1, won := false
        env := .empty } := by
    refine { h with board_eq := rfl, env_eq := rfl, won_eq := rfl, number_eq := ?_ }
    rw [h.number_eq, Nat.add_right_comm]
  exact ⟨rfl, hnew.log resetMessage false⟩

/-- A session that is begun anew repeats one that has just begun. -/
theorem repeats_anew {setup : Setup} (hs : Fresh setup .inert s)
    (hboards : ∀ n, boardAt setup n = .ok s.board) (hsetup : t.setup = setup)
    (hpolicy : t.onWin = .inert) :
    Repeats s.board t.number (t.anew s.board).transcript s (t.anew s.board) where
  left_inert := hs.onWin_eq
  right_inert := hpolicy
  left_boards n := by rw [hs.setup_eq, hboards]
  right_boards n := (congrArg (boardAt · n) hsetup).trans (hboards n)
  board_eq := rfl
  env_eq := hs.env_eq.symm
  won_eq := hs.won_eq.symm
  number_eq := by
    rw [hs.number_eq, Nat.add_comm]
    rfl
  transcript_eq := by simp [transcript, hs.journal_eq]

end Session

namespace Game

open Session (Repeats)

variable {b : Board} {d : Nat} {earlier : List (Log.Entry Nat)} {g h : Game}

theorem Abreast.view_of_repeats (hgh : Abreast (Repeats b d earlier) g h) (request : Request) :
    h.view request = (g.view request).renumber d ∧
      Abreast (Repeats b d earlier) (g.serve request) (h.serve request) := by
  obtain ⟨hreply, hnext⟩ := hgh.serve (Session.twins_repeats b d earlier).kin request
    fun _ => hgh.session.resetAlike
  refine ⟨?_, hnext⟩
  have hentries : (h.serve request).session.transcript.drop h.session.transcript.length =
      ((g.serve request).session.transcript.drop g.session.transcript.length).map
        (.renumber d) := by
    rw [hnext.session.transcript_eq, hgh.session.transcript_eq, List.length_append,
      List.length_map, List.drop_length_add_append, List.map_drop]
  exact View.ext hreply.symm hnext.session.board_eq hnext.session.env_eq hnext.session.won_eq
    hnext.session.number_eq hnext.scheduler_eq hentries

theorem Abreast.views_of_repeats (hgh : Abreast (Repeats b d earlier) g h)
    (requests : List Request) : h.views requests = (g.views requests).map (.renumber d) := by
  induction requests generalizing g h with
  | nil => rfl
  | cons request requests ih =>
    obtain ⟨hview, hnext⟩ := hgh.view_of_repeats request
    rw [views, views, hview, ih hnext, List.map_cons]

end Game

/-- With a fixed setup and a policy for wins that leaves the session alone, a reset of the run
succeeds after whatever was asked before, and from then on everything that is asked gives the same
reply and leaves the same board, variables, win and scheduler, with the same messages, as it does
when it is asked from the start. Only the sessions are numbered on from where they were. -/
theorem reset_erases_history {l : Layout} {s : Session}
    (h : Session.start (.fixed l) .inert = .ok s) (script : List Text) (tick clock : Duration)
    (before later : List Request) :
    let fresh := (Game.ofSession s).attach (.new script tick clock)
    let g := fresh.serveAll before
    g.resetRun.1 = .ok () ∧
      g.resetRun.2.views later = (fresh.views later).map (.renumber g.session.number) := by
  intro fresh g
  have hfresh := Session.fresh_of_start h
  obtain ⟨hsetup, hpolicy⟩ := (fresh.turns_serveAll before).setup_eq
  replace hsetup : g.session.setup = .fixed l := hsetup.trans hfresh.setup_eq
  have hboards : ∀ n, Session.boardAt (.fixed l) n = .ok s.board := fun _ => hfresh.boardAt_eq
  have hreset : g.session.reset = (.ok (), g.session.anew s.board) :=
    Session.reset_of_ok (by rw [hsetup, hboards])
  have hplan : g.scheduler.map Scheduler.rewound = fresh.scheduler :=
    fresh.samePlan_serveAll before
  have hrun : g.resetRun = (.ok (), { g with
      session := g.session.anew s.board, scheduler := fresh.scheduler }) := by
    rw [← hplan, Game.resetRun, hreset]
    rfl
  have habreast : Game.Abreast (Session.Repeats s.board g.session.number _) fresh
      { g with session := g.session.anew s.board, scheduler := fresh.scheduler } :=
    ⟨Session.repeats_anew hfresh hboards hsetup (hpolicy.trans hfresh.onWin_eq), rfl⟩
  rw [hrun]
  exact ⟨rfl, habreast.views_of_repeats later⟩

/-- A win in the middle of a script, with a variable set, is forgotten. -/
theorem reset_erases_won_run :
    ∃ s, Session.start (.fixed ⟨2, ⟨0, 0⟩, ⟨0, 1⟩, []⟩) .inert = .ok s ∧
      let fresh := (Game.ofSession s).attach
        (.new [Text.ofString "MOVER DIREITA 1", Text.ofString "LISTAR"] .second .second)
      let g := fresh.serveAll
        [.operate (.interpret (Text.ofString "VAR a 1")), .operate .start, .operate .step]
      let later := [Request.operate (.interpret (Text.ofString "SE a 1 AJUDA")), .operate .step,
        .operate .start, .operate .step]
      g.session.won = true ∧ g.session.env ≠ fresh.session.env ∧
        g.resetRun.2.views later = (fresh.views later).map (.renumber 1) := by
  have h : Session.start (.fixed ⟨2, ⟨0, 0⟩, ⟨0, 1⟩, []⟩) .inert = .ok _ := rfl
  refine ⟨_, h, ?_⟩
  intro fresh g later
  have hnumber : g.session.number = 1 := by decide +kernel
  refine ⟨by decide +kernel, by decide +kernel, ?_⟩
  rw [← hnumber]
  exact (reset_erases_history h _ _ _ _ later).2

/-! ## Resets that fail -/

/-- The answers of a setup without the one to a given consultation. -/
def Setup.without (setup : Setup) (k : Nat) : Setup :=
  fun n => if n < k then setup n else setup (n + 1)

/-- A setup refuses a consultation: it gives a reason, or a layout that is no board. -/
def Setup.Refuses (setup : Setup) (k : Nat) (e : SetupError) : Prop :=
  setup k = .error e ∨ ∃ l b, setup k = .ok l ∧ Board.ofLayout l = .error b ∧ e = .board b

namespace Session

variable {setup other : Setup} {shift : Nat} {looks : Nat → Prop} {s t : Session} {e : SetupError}

theorem boardAt_of_refuses {k : Nat} (h : setup.Refuses k e) : boardAt setup k = .error e := by
  unfold boardAt
  rcases h with he | ⟨l, b, hl, hb, rfl⟩
  · rw [he]
  · rw [hl]
    simp [hb, Except.mapError]

theorem boardAt_without_of_lt {n k : Nat} (h : n < k) :
    boardAt (setup.without k) n = boardAt setup n := by
  simp [boardAt, Setup.without, h]

theorem boardAt_without_of_le {n k : Nat} (h : k ≤ n) :
    boardAt (setup.without k) n = boardAt setup (n + 1) := by
  simp [boardAt, Setup.without, Nat.not_lt.2 h]

/-- The same sessions but for the setup, which the second has consulted `shift` times less. To
the consultations that `looks` allows both setups answer alike. -/
structure Follows (other : Setup) (shift : Nat) (looks : Nat → Prop) (s t : Session) : Prop where
  inert : s.onWin = .inert
  answers : ∀ n, looks (n + shift) → boardAt other n = boardAt s.setup (n + shift)
  frame : ∃ consulted, consulted + shift = s.consulted ∧ t = { s with setup := other, consulted }

theorem twins_follows (other : Setup) (shift : Nat) (looks : Nat → Prop) :
    Twins (Follows other shift looks) where
  board_eq h := by
    obtain ⟨c, -, rfl⟩ := h.frame
    rfl
  env_eq h := by
    obtain ⟨c, -, rfl⟩ := h.frame
    rfl
  won_eq h := by
    obtain ⟨c, -, rfl⟩ := h.frame
    rfl
  log h message isError := by
    obtain ⟨c, hc, rfl⟩ := h.frame
    exact ⟨h.inert, h.answers, c, hc, rfl⟩
  debug h message attrs := by
    obtain ⟨c, hc, rfl⟩ := h.frame
    exact ⟨h.inert, h.answers, c, hc, rfl⟩
  assign h env := by
    obtain ⟨c, hc, rfl⟩ := h.frame
    exact ⟨h.inert, h.answers, c, hc, rfl⟩
  place h board := by
    obtain ⟨c, hc, rfl⟩ := h.frame
    exact ⟨h.inert, h.answers, c, hc, rfl⟩
  checkWin {s t} h := by
    obtain ⟨c, hc, rfl⟩ := h.frame
    rw [checkWin_of_inert h.inert,
      checkWin_of_inert (s := { s with setup := other, consulted := c }) h.inert]
    dsimp only
    split_ifs
    · exact ⟨h.inert, h.answers, c, hc, rfl⟩
    · exact h

/-- A consultation that both setups answer alike makes for resets that come out alike. -/
theorem Follows.resetAlike (h : Follows other shift looks s t) (hlooks : looks s.consulted) :
    ResetAlike (Follows other shift looks) s t := by
  obtain ⟨c, hc, rfl⟩ := h.frame
  have hanswer : boardAt other c = boardAt s.setup s.consulted := by
    rw [← hc]
    exact h.answers c (hc ▸ hlooks)
  have hnext : c + 1 + shift = s.consulted + 1 := by omega
  unfold ResetAlike
  obtain ⟨b, hb, hreset⟩ | ⟨e, he, hreset⟩ := reset_cases s
  · rw [hreset, reset_of_ok (s := { s with setup := other, consulted := c }) (hanswer.trans hb)]
    exact ⟨rfl, h.inert, h.answers, c + 1, hnext, rfl⟩
  · rw [hreset, reset_of_error (s := { s with setup := other, consulted := c }) (hanswer.trans he)]
    exact ⟨rfl, h.inert, h.answers, c + 1, hnext, rfl⟩

theorem consulted_reset (s : Session) : s.reset.2.consulted = s.consulted + 1 := by
  obtain ⟨b, -, h⟩ | ⟨e, -, h⟩ := reset_cases s
  · rw [h]
    rfl
  · rw [h]

theorem Turn.consulted_le {r : Prop} (h : Turn r s t) : s.consulted ≤ t.consulted := by
  cases h with
  | reset =>
    rw [consulted_reset]
    exact Nat.le_succ _
  | _ => exact le_rfl

theorem Turns.consulted_le {r : Prop} (h : Turns r s t) : s.consulted ≤ t.consulted :=
  Turns.keep (P := fun u => s.consulted ≤ u.consulted)
    (fun _ _ hturn hu => hu.trans hturn.consulted_le) h le_rfl

theorem start_without {onWin : WinPolicy} {k : Nat} (h : start setup onWin = .ok s) (hk : 0 < k) :
    start (setup.without k) onWin = .ok { s with setup := setup.without k } := by
  unfold start at h ⊢
  rw [boardAt_without_of_lt hk]
  rcases hb : boardAt setup 0 with e | b
  · rw [hb] at h
    cases h
  · rw [hb] at h
    cases h
    rfl

/-- Before the consultation that is left out, neither setup is ahead. -/
theorem follows_start {k : Nat} (h : Fresh setup .inert s) :
    Follows (setup.without k) 0 (· < k) s { s with setup := setup.without k } where
  inert := h.onWin_eq
  answers n hn := by
    rw [h.setup_eq]
    exact boardAt_without_of_lt hn
  frame := ⟨s.consulted, rfl, rfl⟩

/-- After a consultation of one setup only, the other is one answer ahead. -/
theorem Follows.skip {k : Nat} {p : Nat → Prop} (h : Follows (setup.without k) 0 p s t)
    (hsetup : s.setup = setup) :
    Follows (setup.without k) 1 (k < ·) { s with consulted := s.consulted + 1 } t where
  inert := h.inert
  answers n hn := by
    rw [hsetup]
    exact boardAt_without_of_le (Nat.le_of_lt_succ hn)
  frame := by
    obtain ⟨c, hc, rfl⟩ := h.frame
    exact ⟨c, congrArg (· + 1) hc, rfl⟩

end Session

namespace Game

open Session (Follows)

variable {other : Setup} {shift : Nat} {looks : Nat → Prop} {g h : Game}

theorem consulted_of_resets {request : Request} (hreset : request.Resets) :
    (g.serve request).session.consulted = g.session.consulted + 1 := by
  rcases hreset with rfl | rfl
  · exact g.session.consulted_reset
  · exact g.session.consulted_reset

theorem serve_of_refuses {e : SetupError} (h : g.session.setup.Refuses g.session.consulted e) :
    g.serve (.operate .resetSession) =
      ⟨{ g.session with consulted := g.session.consulted + 1 }, g.scheduler, g.ran⟩ :=
  congrArg (fun r => Game.mk r.2 g.scheduler g.ran)
    (Session.reset_of_error (Session.boardAt_of_refuses h))

theorem reply_of_refuses {e : SetupError} (h : g.session.setup.Refuses g.session.consulted e) :
    g.reply (.operate .resetSession) = .reset (.error e) := by
  have hreset := Session.reset_of_error (Session.boardAt_of_refuses h)
  exact congrArg Reply.reset (congrArg Prod.fst hreset)

theorem view_of_refuses {e : SetupError} (h : g.session.setup.Refuses g.session.consulted e) :
    g.view (.operate .resetSession) = ⟨.reset (.error e), g.session.board, g.session.env,
      g.session.won, g.session.number, g.scheduler, []⟩ := by
  unfold view
  rw [serve_of_refuses h, reply_of_refuses h]
  exact View.ext rfl rfl rfl rfl rfl rfl List.drop_length

theorem Abreast.skip {setup : Setup} {k : Nat} {p : Nat → Prop} {e : SetupError}
    (hgh : Abreast (Follows (setup.without k) 0 p) g h) (hsetup : g.session.setup = setup)
    (hrefuses : g.session.setup.Refuses g.session.consulted e) :
    Abreast (Follows (setup.without k) 1 (k < ·)) (g.serve (.operate .resetSession)) h := by
  rw [serve_of_refuses hrefuses]
  exact ⟨hgh.session.skip hsetup, hgh.scheduler_eq⟩

/-- As long as the setups answer alike to what is asked of them, the same is seen of both games. -/
theorem Abreast.views_of_follows (hgh : Abreast (Follows other shift looks) g h)
    (requests : List Request)
    (hlooks : ∀ n, g.session.consulted ≤ n →
      n < (g.serveAll requests).session.consulted → looks n) :
    h.views requests = g.views requests ∧
      Abreast (Follows other shift looks) (g.serveAll requests) (h.serveAll requests) := by
  induction requests generalizing g h with
  | nil => exact ⟨rfl, hgh⟩
  | cons request requests ih =>
    have hle : (g.serve request).session.consulted ≤
        (g.serveAll (request :: requests)).session.consulted :=
      ((g.serve request).turns_serveAll requests).consulted_le
    obtain ⟨hreply, hnext⟩ := hgh.serve (Session.twins_follows other shift looks).kin request
      fun hreset => by
        rw [consulted_of_resets hreset] at hle
        exact hgh.session.resetAlike (hlooks _ le_rfl hle)
    have hview : h.view request = g.view request := by
      obtain ⟨c, -, hframe⟩ := hgh.session.frame
      obtain ⟨c', -, hframe'⟩ := hnext.session.frame
      unfold view
      dsimp only
      rw [hframe, hframe', hreply, hnext.scheduler_eq]
      rfl
    obtain ⟨hviews, hend⟩ := ih hnext fun n hn =>
      hlooks n ((g.turns_serve request).consulted_le.trans hn)
    exact ⟨by rw [views, views, hview, hviews], hend⟩

end Game

/-- A reset that the setup refuses gives back the reason, changes nothing and says nothing. If it is
left out together with the answer that the setup gave to it, the rest of the run is the same: every
other request gives the same reply, leaves the same board, variables, win, number and scheduler, and
adds the same entries to the transcript. -/
theorem failed_reset_leaves_no_trace {setup : Setup} {s : Session}
    (h : Session.start setup .inert = .ok s) (scheduler : Option Scheduler)
    (before later : List Request) {e : SetupError}
    (hrefuses : setup.Refuses ((Game.mk s scheduler []).serveAll before).session.consulted e) :
    let g := (Game.mk s scheduler []).serveAll before
    let whole := before ++ .operate .resetSession :: later
    g.view (.operate .resetSession) = ⟨.reset (.error e), g.session.board, g.session.env,
        g.session.won, g.session.number, g.scheduler, []⟩ ∧
      (g.reply (.operate .resetSession)).failure? =
        some (Text.ofString "board setup: " ++ e.message) ∧
      ∃ t, Session.start (setup.without g.session.consulted) .inert = .ok t ∧
        (Game.mk t scheduler []).views (before ++ later) =
          ((Game.mk s scheduler []).views whole).eraseIdx before.length := by
  intro g whole
  have hfresh := Session.fresh_of_start h
  have hturns := (Game.mk s scheduler []).turns_serveAll before
  have hsetup : g.session.setup = setup := hturns.setup_eq.1.trans hfresh.setup_eq
  have hpos : 0 < g.session.consulted := by
    have hle : 1 ≤ g.session.consulted := hfresh.consulted_eq ▸ hturns.consulted_le
    exact hle
  replace hrefuses : g.session.setup.Refuses g.session.consulted e := by
    rw [hsetup]
    exact hrefuses
  refine ⟨Game.view_of_refuses hrefuses, by rw [Game.reply_of_refuses hrefuses]; rfl,
    _, Session.start_without h hpos, ?_⟩
  -- up to the refusal the two games are level, after it one consultation apart
  have hstart : Game.Abreast (Session.Follows (setup.without g.session.consulted) 0
      (· < g.session.consulted)) ⟨s, scheduler, []⟩
      ⟨{ s with setup := setup.without g.session.consulted }, scheduler, []⟩ :=
    ⟨Session.follows_start hfresh, rfl⟩
  obtain ⟨hbefore, hmiddle⟩ := hstart.views_of_follows before fun _ _ hn => hn
  obtain ⟨hlater, -⟩ := (hmiddle.skip hsetup hrefuses).views_of_follows later fun n hn _ => by
    rw [Game.serve_of_refuses hrefuses] at hn
    exact hn
  rw [Game.views_append, Game.views_append, hbefore, hlater, Game.views,
    List.eraseIdx_append_of_length_le (Game.length_views _ _).le, Game.length_views, Nat.sub_self]
  rfl

/-- After a move, the setup gives a board without cells. -/
theorem failed_reset_to_empty_board :
    let setup := Setup.ofAnswers [.ok ⟨2, ⟨0, 0⟩, ⟨0, 1⟩, []⟩, .ok ⟨0, ⟨0, 0⟩, ⟨0, 1⟩, []⟩,
      .ok ⟨2, ⟨1, 0⟩, ⟨0, 1⟩, []⟩]
    let move := Request.operate (.interpret (Text.ofString "MOVER DIREITA 1"))
    let reset := Request.operate .resetSession
    setup.Refuses 1 (.board (.sizeNotPositive 0)) ∧
      ∃ s, Session.start setup .inert = .ok s ∧
        ((Game.ofSession s).serveAll [move]).session.consulted = 1 ∧
        ∃ t, Session.start (setup.without 1) .inert = .ok t ∧
          (Game.ofSession t).views [move, reset, move] =
            ((Game.ofSession s).views [move, reset, reset, move]).eraseIdx 1 := by
  intro setup move reset
  have hrefuses : setup.Refuses 1 (.board (.sizeNotPositive 0)) := .inr ⟨_, _, rfl, rfl, rfl⟩
  obtain ⟨s, h, hone⟩ : ∃ s, Session.start setup .inert = .ok s ∧
      ((Game.mk s none []).serveAll [move]).session.consulted = 1 := ⟨_, rfl, by decide +kernel⟩
  obtain ⟨-, -, hrest⟩ := failed_reset_leaves_no_trace h none [move] [reset, move] (hone ▸ hrefuses)
  rw [hone] at hrest
  exact ⟨hrefuses, s, h, hone, hrest⟩

end GridRobot
