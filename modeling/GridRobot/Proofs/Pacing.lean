import GridRobot.Proofs.Parallel
import GridRobot.Proofs.Runs
import GridRobot.Proofs.Trim

/-!
# Direct and paced runs

A script can be run at once, or by a scheduler line after line. Either way the interpreter is given
the same lines and answers the same, and the session ends up the same but for what the scheduler
says when it starts and when it is done (`direct_and_paced_agree`).

The two runs are followed side by side. The session of the paced one echoes that of the direct one
after the message it has begun with (`Session.Echoes`); a line that asks for the scheduler to be
started finds it running, which is a detail that no transcript shows. The direct run looks for a win
before a line and the paced one after it, so that both stop at the same line.
-/

namespace GridRobot

namespace Session

variable {before : List (Log.Entry Nat)} {s t : Session}

/-- The same session with another journal, whose transcript has some entries first. -/
def Echoes (before : List (Log.Entry Nat)) (s t : Session) : Prop :=
  ∃ journal, t = { s with journal } ∧ journal.filterMap Note.entry? = before ++ s.transcript

theorem Echoes.log (h : s.Echoes before t) (message : Text) (isError : Bool) :
    (s.log message isError).Echoes before (t.log message isError) := by
  obtain ⟨journal, rfl, hj⟩ := h
  refine ⟨_, rfl, ?_⟩
  simp [log, note, transcript, hj, Note.entry?]

theorem Echoes.debug (h : s.Echoes before t) (message : Text) (attrs : List Log.Attr) :
    s.Echoes before (t.note (.debug message attrs)) := by
  obtain ⟨journal, rfl, hj⟩ := h
  refine ⟨_, rfl, ?_⟩
  simp [hj, Note.entry?]

theorem Echoes.win (h : s.Echoes before t) : s.win.Echoes before t.win := by
  obtain ⟨journal, rfl, hj⟩ := h
  refine ⟨_, rfl, ?_⟩
  simp [Session.win, say, Session.log, note, transcript, hj, Note.entry?]

theorem Echoes.reset (h : s.Echoes before t) :
    s.reset.1 = t.reset.1 ∧ s.reset.2.Echoes before t.reset.2 := by
  obtain ⟨journal, rfl, hj⟩ := h
  obtain ⟨b, hb, hs⟩ | ⟨e, he, hs⟩ := reset_cases s
  · rw [hs, reset_of_ok (s := { s with journal }) hb]
    refine ⟨rfl, _, rfl, ?_⟩
    simp [anew, say, Session.log, note, transcript, hj, Note.entry?]
  · rw [hs, reset_of_error (s := { s with journal }) he]
    exact ⟨rfl, journal, rfl, hj⟩

theorem Echoes.heed (h : s.Echoes before t) : s.heed.Echoes before t.heed := by
  obtain ⟨houtcome, hreset⟩ := h.reset
  have hpolicy : t.onWin = s.onWin := by
    obtain ⟨journal, rfl, -⟩ := h
    rfl
  unfold Session.heed
  rw [hpolicy]
  cases s.onWin with
  | inert => exact h
  | quietReset => exact hreset
  | reset =>
    rcases hs : s.reset with ⟨x, s'⟩
    rcases ht : t.reset with ⟨y, t'⟩
    rw [hs, ht] at houtcome hreset
    obtain rfl : x = y := houtcome
    rcases x with e | _
    · exact hreset.log _ true
    · exact hreset

theorem Echoes.checkWin (h : s.Echoes before t) : s.checkWin.2.Echoes before t.checkWin.2 := by
  have hstate : t.board = s.board ∧ t.won = s.won := by
    obtain ⟨journal, rfl, -⟩ := h
    exact ⟨rfl, rfl⟩
  rw [checkWin_eq, checkWin_eq, hstate.1, hstate.2]
  split_ifs
  · exact h.win.heed
  · exact h

end Session

namespace Game

variable {before : List (Log.Entry Nat)} {sched : Scheduler} {g h : Game}

/-- A game without a scheduler, and the same game with a scheduler at work. -/
structure Beside (before : List (Log.Entry Nat)) (sched : Scheduler) (g h : Game) : Prop where
  left_scheduler : g.scheduler = none
  right_scheduler : h.scheduler = some sched
  running : sched.running = true
  session : g.session.Echoes before h.session
  ran_eq : h.ran = g.ran

theorem Beside.running_eq (hgh : Beside before sched g h) : h.running = true := by
  simp [Game.running, hgh.right_scheduler, hgh.running]

theorem parallel_beside (before : List (Log.Entry Nat)) (sched : Scheduler) :
    Parallel (Beside before sched) where
  board_eq hgh := by
    obtain ⟨journal, hs, -⟩ := hgh.session
    rw [hs]
  env_eq hgh := by
    obtain ⟨journal, hs, -⟩ := hgh.session
    rw [hs]
  log hgh message isError := { hgh with session := hgh.session.log message isError }
  assign hgh env := by
    obtain ⟨journal, hs, hj⟩ := hgh.session
    exact { hgh with session := ⟨journal, by rw [hs], hj⟩ }
  place hgh board := by
    obtain ⟨journal, hs, hj⟩ := hgh.session
    exact { hgh with session := ⟨journal, by rw [hs], hj⟩ }
  checkWin hgh := { hgh with session := hgh.session.checkWin }
  start {g h} hgh := by
    have hg : g.start = g := by simp [start, hgh.left_scheduler]
    rw [hg, start_of_running hgh.running_eq]
    exact { hgh with session := hgh.session.debug _ [] }

theorem Beside.hand (hgh : Beside before sched g h) (line : Text) :
    Agree (Beside before sched) (g.hand line) (h.hand line) :=
  (parallel_beside before sched).alongside.hand
    (fun hgames entry => { hgames with ran_eq := congrArg (· ++ [entry]) hgames.ran_eq }) hgh line

theorem Beside.won_eq (hgh : Beside before sched g h) : h.session.won = g.session.won := by
  obtain ⟨journal, hs, -⟩ := hgh.session
  rw [hs]

theorem running_stop (g : Game) : g.stop.running = false := by
  unfold stop Game.running
  cases g.scheduler <;> rfl

/-! ## One line -/

theorem runDirect_of_won (hwon : g.session.won = true) (lines : List Text) :
    g.runDirect lines = (0, g) := by
  cases lines with
  | nil => rfl
  | cons line rest => rw [runDirect, if_pos hwon]

theorem runDirect_cons {line : Text} (hwon : g.session.won = false)
    (hline : line.trim.isEmpty = false) (rest : List Text) :
    (g.runDirect (line :: rest)).2 = ((g.hand line.trim).2.runDirect rest).2 := by
  rw [runDirect]
  simp only [hwon, hline, Bool.false_eq_true, if_false]
  rcases g.hand line.trim with ⟨e | _, g'⟩ <;> rfl

/-- A tick leaves the paced game beside the direct one, and stops it after a win. -/
theorem Beside.takeLine (hgh : Beside before sched g h) (line : Text) :
    ∃ h', Beside before { sched with cursor := sched.cursor + 1 } (g.hand line.trim).2 h' ∧
      h.takeLine sched line = if h'.session.won then h'.stop else h' := by
  have hnext : Beside before { sched with cursor := sched.cursor + 1 } g
      { h with scheduler := some { sched with cursor := sched.cursor + 1 } } :=
    { hgh with right_scheduler := rfl }
  obtain ⟨-, hgames⟩ := hnext.hand line.trim
  unfold Game.takeLine
  dsimp only
  split
  · next hhand =>
    rw [hhand] at hgames
    exact ⟨_, hgames, rfl⟩
  · next hhand =>
    rw [hhand] at hgames
    refine ⟨_, ?_, rfl⟩
    exact { hgames with session := hgames.session.debug _ _ }

/-! ## The whole script -/

/-- Ticks are performed until one after which the run does not go on. -/
inductive TicksOut : Game → Game → Prop where
  | last {g : Game} (h : g.step.1.goesOn = false) : TicksOut g g.step.2
  | next {g p : Game} (h : g.step.1.goesOn = true) (hp : TicksOut g.step.2 p) : TicksOut g p

/-- What the scheduler says at the end of a run, which is nothing after a win. -/
def closing (s : Session) : List (Log.Entry Nat) :=
  if s.won then [] else [⟨doneMessage, false, s.number⟩]

/-- How a direct run and a paced one that began with some entries compare at their ends: the same
lines with the same answers, the same session, and the same transcript in between. -/
structure SameEnd (before : List (Log.Entry Nat)) (direct paced : Game) : Prop where
  ran_eq : paced.ran = direct.ran
  session_eq : paced.session = { direct.session with journal := paced.session.journal }
  transcript_eq : paced.session.transcript =
    before ++ direct.session.transcript ++ closing direct.session

theorem step_of_done {s : Scheduler} (hs : h.scheduler = some s) (hrun : s.running = true)
    (hdone : s.script.drop s.cursor = []) :
    h.step = (.done, { h with scheduler := some { s with running := false } }.say doneMessage) := by
  have hnone : s.script[s.cursor]? = none := List.getElem?_eq_none (List.drop_eq_nil_iff.1 hdone)
  simp [step, hs, hrun, hnone]

theorem step_of_line {s : Scheduler} {line : Text} {rest : List Text} (hs : h.scheduler = some s)
    (hrun : s.running = true) (hline : s.script.drop s.cursor = line :: rest) :
    h.step = (.line (h.takeLine s line).running, h.takeLine s line) := by
  have hsome : s.script[s.cursor]? = some line := by
    rw [← List.head?_drop, hline]
    rfl
  simp [step, hs, hrun, hsome]

theorem Beside.sameEnd_done (hgh : Beside before sched g h) (hwon : g.session.won = false) :
    SameEnd before g ({ h with
      scheduler := some { sched with running := false } }.say doneMessage) := by
  obtain ⟨journal, hs, hj⟩ := hgh.session
  refine ⟨hgh.ran_eq, ?_, ?_⟩
  · simp [say, Session.say, Session.log, Session.note, hs]
  · simp [say, Session.say, Session.log, Session.note, Session.transcript, hs, hj, closing, hwon,
      Note.entry?]

theorem Beside.sameEnd_won (hgh : Beside before sched g h) (hwon : g.session.won = true) :
    SameEnd before g h.stop := by
  obtain ⟨journal, hs, hj⟩ := hgh.session
  refine ⟨hgh.ran_eq, ?_, ?_⟩
  · simp [stop, hs]
  · simp [stop, Session.transcript, hs, hj, closing, hwon]

/-- The paced game does with the rest of its script what the direct one does with these lines. Each
line is one tick, and one more tick says that the script is done. -/
theorem Beside.ticksOut (hgh : Beside before sched g h) (lines : List Text)
    (hwon : g.session.won = false) (hrest : sched.script.drop sched.cursor = lines)
    (hlines : ∀ line ∈ lines, line.trim.isEmpty = false) :
    ∃ p, TicksOut h p ∧ SameEnd before (g.runDirect lines).2 p := by
  induction lines generalizing sched g h with
  | nil =>
    have hstep := step_of_done hgh.right_scheduler hgh.running hrest
    refine ⟨_, .last (by rw [hstep]; rfl), ?_⟩
    rw [hstep]
    exact hgh.sameEnd_done hwon
  | cons line rest ih =>
    have hstep := step_of_line hgh.right_scheduler hgh.running hrest
    obtain ⟨h', hbeside, htake⟩ := hgh.takeLine line
    rw [runDirect_cons hwon (hlines line List.mem_cons_self)]
    rcases hwon' : (g.hand line.trim).2.session.won with _ | _
    · -- the run goes on with the next line
      rw [hbeside.won_eq, hwon', if_neg Bool.false_ne_true] at htake
      rw [htake] at hstep
      have hrest' : sched.script.drop (sched.cursor + 1) = rest := by
        rw [← List.tail_drop, hrest]
        rfl
      obtain ⟨p, hp, hend⟩ := ih hbeside hwon' hrest' fun l hl =>
        hlines l (List.mem_cons_of_mem line hl)
      refine ⟨p, .next ?_ (by rw [hstep]; exact hp), hend⟩
      rw [hstep]
      exact hbeside.running_eq
    · -- the line has won: the paced run stops now, the direct one before its next line
      rw [hbeside.won_eq, hwon', if_pos rfl] at htake
      rw [htake] at hstep
      rw [runDirect_of_won hwon']
      refine ⟨_, .last ?_, ?_⟩
      · rw [hstep]
        exact h'.running_stop
      · rw [hstep]
        exact hbeside.sameEnd_won hwon'

end Game

theorem Script.isEmpty_trim_of_mem_load? {t : Text} {lines : List Text} (h : load? t = some lines) :
    ∀ line ∈ lines, line.trim.isEmpty = false := by
  intro line hline
  unfold load? at h
  dsimp only at h
  split_ifs at h
  cases h
  obtain ⟨hmem, hempty⟩ := List.mem_filter.1 hline
  obtain ⟨segment, -, rfl⟩ := List.mem_map.1 hmem
  rw [Text.trim_trim]
  simpa using hempty

/-- From the same fresh session, a script that is run at once and one that is paced by a scheduler
give the same lines to the interpreter with the same answers and end in the same session. The
transcript of the paced run is that of the direct one after the message of its start, and before
the message of its end unless the session is won then. -/
theorem direct_and_paced_agree {setup : Setup} {onWin : WinPolicy} {s : Session}
    (h : Session.start setup onWin = .ok s) {t : Text} {lines : List Text}
    (hload : Script.load? t = some lines) (tick clock : Duration) :
    let direct := ((Game.ofSession s).runDirect lines).2
    ∃ paced, Game.TicksOut ((Game.ofSession s).attach (.new lines tick clock)).start paced ∧
      paced.ran = direct.ran ∧
      paced.session = { direct.session with journal := paced.session.journal } ∧
      paced.session.transcript =
        ⟨Game.startMessage, false, s.number⟩ :: direct.session.transcript ++
        if direct.session.won then []
        else [⟨Game.doneMessage, false, direct.session.number⟩] := by
  intro direct
  have hfresh := Session.fresh_of_start h
  have hechoes : s.Echoes [⟨Game.startMessage, false, s.number⟩] (s.say Game.startMessage) := by
    refine ⟨_, rfl, ?_⟩
    simp [Session.transcript, hfresh.journal_eq, Note.entry?]
  have hbeside : Game.Beside [⟨Game.startMessage, false, s.number⟩]
      { Scheduler.new lines tick clock with running := true, cursor := 0, elapsed := .zero }
      (Game.ofSession s) ((Game.ofSession s).attach (.new lines tick clock)).start :=
    ⟨rfl, rfl, rfl, hechoes, rfl⟩
  obtain ⟨paced, hticks, hend⟩ := hbeside.ticksOut lines hfresh.won_eq rfl
    (Script.isEmpty_trim_of_mem_load? hload)
  exact ⟨paced, hticks, hend.ran_eq, hend.session_eq, hend.transcript_eq⟩

/-- A script that asks to be started again, wins, and goes on in the session after the win. -/
theorem direct_and_paced_agree_past_win :
    ∃ s, Session.start (.fixed ⟨2, ⟨0, 0⟩, ⟨0, 1⟩, [⟨1, 1⟩]⟩) .reset = .ok s ∧
      Script.load? (Text.ofString "INICIAR TIMER\n\n MOVER DIREITA 1\r\nMOVER CIMA 1") =
        some [Text.ofString "INICIAR TIMER", Text.ofString "MOVER DIREITA 1",
          Text.ofString "MOVER CIMA 1"] ∧
      ∃ paced, Game.TicksOut ((Game.ofSession s).attach (.new [Text.ofString "INICIAR TIMER",
          Text.ofString "MOVER DIREITA 1", Text.ofString "MOVER CIMA 1"] .second
          .second)).start paced ∧
        paced.ran = ((Game.ofSession s).runDirect [Text.ofString "INICIAR TIMER",
          Text.ofString "MOVER DIREITA 1", Text.ofString "MOVER CIMA 1"]).2.ran := by
  have h : Session.start (.fixed ⟨2, ⟨0, 0⟩, ⟨0, 1⟩, [⟨1, 1⟩]⟩) .reset = .ok _ := rfl
  have hload : Script.load? (Text.ofString "INICIAR TIMER\n\n MOVER DIREITA 1\r\nMOVER CIMA 1") =
      some [Text.ofString "INICIAR TIMER", Text.ofString "MOVER DIREITA 1",
        Text.ofString "MOVER CIMA 1"] := by decide +kernel
  obtain ⟨paced, hticks, hran, -⟩ := direct_and_paced_agree h hload .second .second
  exact ⟨_, h, hload, paced, hticks, hran⟩

end GridRobot
