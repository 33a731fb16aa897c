import GridRobot.Proofs.Pacing

/-!
# What operations do to a run

A run of the scheduler begins, takes lines and comes to its end by what is done to the game.
`Game.RunStep` lists what one operation can do to it, and `Game.runStep_perform` takes every
operation apart that way: it leaves the run alone, begins one where none is in progress, ends it, or
is a tick, which takes one line or finds the script used up. Besides the scheduler this tells how
often a run was said to be started and how often a script was said to be used up
(`Game.startCount`, `Game.doneCount`).

Lines can only begin a run (`Game.Prompts`), and during a tick they cannot even do that, since the
run is in progress then (`Game.takeLine_spec`).
-/

namespace GridRobot

/-! ## What a run says -/

namespace Session

variable {s : Session} {message text : Text}

/-- How often a message was said to the console. -/
def said (s : Session) (message : Text) : Nat :=
  s.transcript.countP (·.message = message)

theorem said_log_self (s : Session) (message : Text) (isError : Bool) :
    (s.log message isError).said message = s.said message + 1 := by
  simp [said, transcript, log, note, Note.entry?]

theorem said_log_of_ne (s : Session) (isError : Bool) (hne : text ≠ message) :
    (s.log text isError).said message = s.said message := by
  simp [said, transcript, log, note, Note.entry?, hne]

theorem said_debug (s : Session) (detail : Text) (attrs : List Log.Attr) :
    (s.note (.debug detail attrs)).said message = s.said message := by
  simp [said, transcript, note, Note.entry?]

theorem said_log_of_mem (s : Session) (isError : Bool) (hmessage : message ∈ Game.runMessages)
    (htext : text ∉ Game.runMessages) : (s.log text isError).said message = s.said message :=
  s.said_log_of_ne isError (ne_of_mem_of_not_mem hmessage htext).symm

theorem said_reset (s : Session) (hmessage : message ∈ Game.runMessages) :
    s.reset.2.said message = s.said message := by
  obtain ⟨b, -, h⟩ | ⟨e, -, h⟩ := reset_cases s
  · rw [h]
    exact said_log_of_mem _ false hmessage (by decide)
  · rw [h]
    rfl

theorem said_win (s : Session) (hmessage : message ∈ Game.runMessages) :
    s.win.said message = s.said message :=
  said_log_of_mem { s with won := true } false hmessage (by decide)

theorem said_checkWin (s : Session) (hmessage : message ∈ Game.runMessages) :
    s.checkWin.2.said message = s.said message := by
  obtain ⟨-, h⟩ | ⟨-, ⟨-, h⟩ | ⟨-, h⟩ | ⟨e, -, -, h⟩⟩ := s.checkWin_cases
  · rw [h]
  · rw [h, said_win s hmessage]
  · rw [h, said_reset _ hmessage, said_win s hmessage]
  · have htext : Text.ofString "reset: " ++ buildMessage e ∉ Game.runMessages :=
      Game.notMem_runMessages _ (by decide) (List.prefix_append _ _)
    rw [h, said_log_of_mem _ true hmessage htext, said_reset _ hmessage, said_win s hmessage]

end Session

/-- The scheduler at the start of a run. -/
def Scheduler.begun (s : Scheduler) : Scheduler :=
  { s with running := true, cursor := 0, elapsed := .zero }

namespace Game

variable {g h k : Game} {s : Scheduler} {op : Operation}

/-- How often a run was started. -/
def startCount (g : Game) : Nat :=
  g.session.said startMessage

/-- How often the script was reported to be used up. -/
def doneCount (g : Game) : Nat :=
  g.session.said doneMessage

theorem running_eq (hs : g.scheduler = some s) : g.running = s.running := by
  simp [running, hs]

/-! ## Lines -/

/-- What lines do to a run: they leave it alone, or they begin one where none is in progress. -/
inductive Prompts (g h : Game) : Prop where
  | calm (hs : h.scheduler = g.scheduler)
      (hsaid : ∀ m ∈ runMessages, h.session.said m = g.session.said m)
  | begins {s : Scheduler} (hs : g.scheduler = some s) (hrun : s.running = false)
      (hbegun : h.scheduler = some s.begun) (hstart : h.startCount = g.startCount + 1)
      (hdone : h.doneCount = g.doneCount)

theorem startMessage_mem : startMessage ∈ runMessages := List.mem_cons_self

theorem doneMessage_mem : doneMessage ∈ runMessages := List.mem_cons_of_mem _ List.mem_cons_self

theorem Prompts.trans (hgh : Prompts g h) (hhk : Prompts h k) : Prompts g k := by
  cases hgh with
  | calm hs hsaid =>
    cases hhk with
    | calm hs' hsaid' =>
      exact .calm (hs'.trans hs) fun m hm => (hsaid' m hm).trans (hsaid m hm)
    | begins hs' hrun hbegun hstart hdone =>
      refine .begins (hs ▸ hs') hrun hbegun ?_ (hdone.trans (hsaid _ doneMessage_mem))
      rw [hstart, startCount, hsaid _ startMessage_mem, startCount]
  | begins hs hrun hbegun hstart hdone =>
    cases hhk with
    | calm hs' hsaid' =>
      exact .begins hs hrun (hs'.trans hbegun) ((hsaid' _ startMessage_mem).trans hstart)
        ((hsaid' _ doneMessage_mem).trans hdone)
    | begins hs' hrun' =>
      -- a run that was begun is in progress
      rw [hbegun] at hs'
      cases hs'
      cases hrun'

theorem prompts_start (g : Game) : Prompts g g.start := by
  unfold start
  split
  · exact .calm rfl fun _ _ => rfl
  · next s hs =>
    split_ifs with hrun
    · exact .calm rfl fun m _ => g.session.said_debug _ _
    · refine .begins hs (by simpa using hrun) rfl (g.session.said_log_self _ false) ?_
      exact g.session.said_log_of_ne false (by decide)

theorem onward_prompts : Onward Prompts where
  refl _ := .calm rfl fun _ _ => rfl
  trans := Prompts.trans
  log g _ isError hmessage := .calm rfl fun _ hm => g.session.said_log_of_mem isError hm hmessage
  assign _ _ _ := .calm rfl fun _ _ => rfl
  move _ := .calm rfl fun _ _ => rfl
  checkWin g := .calm rfl fun _ hm => g.session.said_checkWin hm
  start := prompts_start

theorem onward_ran : Onward fun g h => h.ran = g.ran where
  refl _ := rfl
  trans hgh hhk := hhk.trans hgh
  log _ _ _ _ := rfl
  assign _ _ _ := rfl
  move _ := rfl
  checkWin _ := rfl
  start g := by
    unfold start
    split
    · rfl
    · split_ifs <;> rfl

theorem ran_hand (g : Game) (line : Text) :
    ∃ failure, (g.hand line).2.ran = g.ran ++ [(line, failure)] := by
  have hran := onward_ran.interpret g line
  unfold hand
  split <;>
  · next hinterpret =>
    rw [hinterpret] at hran
    exact ⟨_, by rw [← hran]⟩

/-! ## Operations -/

/-- Ending the run of a game that is won changes nothing but whether the run is in progress. -/
theorem stop_of_won_spec (hs : g.scheduler = some s) (hrun : s.running = true) :
    (if g.session.won then g.stop else g) =
      { g with scheduler := some { s with running := !g.session.won } } := by
  cases hwon : g.session.won
  · rw [if_neg Bool.false_ne_true, Bool.not_false, ← hrun, ← hs]
  · simp [stop, hs]

/-- What the tick does that takes a line: the cursor goes on, the line is given to the interpreter,
and the run stays in progress unless the session is won. -/
theorem takeLine_spec (g : Game) (hrun : s.running = true) (line : Text) :
    (g.takeLine s line).scheduler =
        some { s with cursor := s.cursor + 1, running := !(g.takeLine s line).session.won } ∧
      (∃ failure, (g.takeLine s line).ran = g.ran ++ [(line.trim, failure)]) ∧
      ∀ m ∈ runMessages, (g.takeLine s line).session.said m = g.session.said m := by
  have hprompts := onward_prompts.hand (fun _ _ => .calm rfl fun _ _ => rfl)
    { g with scheduler := some { s with cursor := s.cursor + 1 } } line.trim
  obtain ⟨failure, hran⟩ :=
    ran_hand { g with scheduler := some { s with cursor := s.cursor + 1 } } line.trim
  cases hprompts with
  | begins hs hrun' =>
    -- a line that asks for a start finds the run in progress
    cases hs
    rw [hrun] at hrun'
    cases hrun'
  | calm hs hsaid =>
    unfold takeLine
    dsimp only
    split
    · next h hhand =>
      rw [hhand] at hs hsaid hran
      rw [stop_of_won_spec hs hrun]
      exact ⟨rfl, ⟨failure, hran⟩, hsaid⟩
    · next e h hhand =>
      rw [hhand] at hs hsaid hran
      rw [stop_of_won_spec (g := { h with session := h.session.note _ }) hs hrun]
      exact ⟨rfl, ⟨failure, hran⟩, fun m hm => (h.session.said_debug _ _).trans (hsaid m hm)⟩

/-- What an operation does to the run of a scheduler. -/
inductive RunStep (s : Scheduler) (op : Operation) (g h : Game) : Prop where
  /-- The run is left alone. -/
  | calm (hs : h.scheduler = some s) (hstart : h.startCount = g.startCount)
      (hdone : h.doneCount = g.doneCount) (hstep : op = .step → s.running = false ∧ h.ran = g.ran)
  /-- A run begins where none was in progress. -/
  | begins (hop : op ≠ .step) (hrun : s.running = false) (hs : h.scheduler = some s.begun)
      (hstart : h.startCount = g.startCount + 1) (hdone : h.doneCount = g.doneCount)
  /-- The run is ended from outside. -/
  | halts (s' : Scheduler) (hop : op ≠ .step) (hs : h.scheduler = some s')
      (hscript : s'.script = s.script) (hrun : s'.running = false) (hcursor : s'.cursor ≤ s.cursor)
      (hstart : h.startCount = g.startCount) (hdone : h.doneCount = g.doneCount)
  /-- A tick takes a line. -/
  | line {line : Text} {rest : List Text} {failure : Option CommandError} (hop : op = .step)
      (hrun : s.running = true) (hline : s.script.drop s.cursor = line :: rest)
      (hs : h.scheduler = some { s with cursor := s.cursor + 1, running := !h.session.won })
      (hran : h.ran = g.ran ++ [(line.trim, failure)])
      (hstart : h.startCount = g.startCount) (hdone : h.doneCount = g.doneCount)
  /-- A tick finds the script used up. -/
  | done (hop : op = .step) (hrun : s.running = true) (hend : s.script.drop s.cursor = [])
      (hs : h.scheduler = some { s with running := false }) (hran : h.ran = g.ran)
      (hstart : h.startCount = g.startCount) (hdone : h.doneCount = g.doneCount + 1)

theorem Prompts.runStep (hgh : Prompts g h) (hs : g.scheduler = some s) (hop : op ≠ .step) :
    RunStep s op g h := by
  cases hgh with
  | calm hs' hsaid =>
    exact .calm (hs'.trans hs) (hsaid _ startMessage_mem) (hsaid _ doneMessage_mem)
      fun h => absurd h hop
  | begins hs' hrun hbegun hstart hdone =>
    rw [hs] at hs'
    cases hs'
    exact .begins hop hrun hbegun hstart hdone

theorem step_of_stopped (hs : g.scheduler = some s) (hrun : s.running = false) :
    g.step = (.idle, g) := by
  simp [step, hs, hrun]

theorem runStep_step (hs : g.scheduler = some s) : RunStep s .step g g.step.2 := by
  rcases hrun : s.running with _ | _
  · rw [step_of_stopped hs hrun]
    exact .calm hs rfl rfl fun _ => ⟨hrun, rfl⟩
  · rcases hdrop : s.script.drop s.cursor with _ | ⟨line, rest⟩
    · rw [step_of_done hs hrun hdrop]
      exact .done rfl hrun hdrop rfl rfl (Session.said_log_of_ne _ false (by decide))
        (Session.said_log_self _ _ false)
    · obtain ⟨hs', ⟨failure, hran⟩, hsaid⟩ := g.takeLine_spec hrun line
      rw [step_of_line hs hrun hdrop]
      exact .line rfl hrun hdrop hs' hran (hsaid _ startMessage_mem) (hsaid _ doneMessage_mem)

theorem runStep_perform (hs : g.scheduler = some s) (op : Operation) :
    RunStep s op g (g.perform op) := by
  cases op with
  | interpret line => exact (onward_prompts.interpret g line).runStep hs (by simp)
  | resetSession =>
    have hprompts : Prompts g { g with session := g.session.reset.2 } :=
      .calm rfl fun m hm => g.session.said_reset hm
    exact hprompts.runStep hs (by simp)
  | checkWin => exact (onward_prompts.checkWin g).runStep hs (by simp)
  | evalCondition condition expected =>
    exact (onward_prompts.evalCondition g condition expected).runStep hs (by simp)
  | setVariable name value => exact (onward_prompts.assign g name value).runStep hs (by simp)
  | runDirect lines =>
    have hprompts := onward_prompts.runDirect (fun _ _ => .calm rfl fun _ _ => rfl) g lines
    exact hprompts.runStep hs (by simp)
  | start => exact g.prompts_start.runStep hs (by simp)
  | stop =>
    refine .halts { s with running := false } (by simp) ?_ rfl rfl le_rfl rfl rfl
    simp [perform, stop, hs]
  | step => exact runStep_step hs
  | resetRun =>
    refine .halts { s with running := false, cursor := 0, elapsed := .zero } (by simp) ?_ rfl rfl
      (Nat.zero_le _) (g.session.said_reset startMessage_mem) (g.session.said_reset doneMessage_mem)
    simp [perform, resetRun, hs]

end Game

end GridRobot
