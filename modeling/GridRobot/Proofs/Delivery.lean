import GridRobot.Proofs.Clock
import GridRobot.Proofs.Reporting
import GridRobot.Proofs.WhiteSpace

/-!
# How a line gets to the interpreter

A line can be given to the interpreter as it is. A script that is run at once, or by the scheduler,
trims its lines before it does so. What a line does depends on its words only
(`Interpreter.interpret_eq_interpretWords`), so this makes no difference as long as trimming leaves
the words alone (`Game.sameEffect_handWith`). A tick of the scheduler has moved on to the next line
by then, but nothing in a line looks at how far a run has got (`Game.parallel_bothRun`), unless a
callback for wins does so.

Trimming does change the words if a line begins or ends with white space that is not in ASCII, for
such white space is part of a word.
-/

namespace GridRobot

namespace Game

variable {g h k : Game} {s : Scheduler} {line : Text} {outcome : Outcome}

/-! ## Runs in progress -/

/-- The same game but for what the scheduler knows of a run, which is in progress in both. -/
structure BothRun (g h : Game) : Prop where
  session_eq : h.session = g.session
  ran_eq : h.ran = g.ran
  left_running : g.running = true
  right_running : h.running = true

theorem BothRun.onSession (hgh : BothRun g h) (act : Session → Session) :
    BothRun (onSession act g) (onSession act h) :=
  { hgh with session_eq := congrArg act hgh.session_eq }

theorem parallel_bothRun : Parallel BothRun where
  board_eq hgh := by rw [hgh.session_eq]
  env_eq hgh := by rw [hgh.session_eq]
  log hgh message isError := hgh.onSession fun s => s.log message isError
  assign hgh env := hgh.onSession fun s => { s with env }
  place hgh board := hgh.onSession fun s => { s with board }
  checkWin hgh := hgh.onSession fun s => s.checkWin.2
  start hgh := by
    rw [start_of_running hgh.left_running, start_of_running hgh.right_running]
    exact hgh.onSession fun s => s.note _

theorem BothRun.handWith (hgh : BothRun g h) (act : Session → Session) (line : Text) :
    Agree BothRun (g.handWith (Game.onSession act) line) (h.handWith (Game.onSession act) line) :=
  parallel_bothRun.handWith (fun hgh => by rw [hgh.session_eq]) (fun hgh => hgh.onSession act)
    (fun hgh entry => { hgh with ran_eq := congrArg (· ++ [entry]) hgh.ran_eq }) hgh line

/-! ## The same effect -/

/-- The failure of an outcome, if it is one. -/
def failure? : Outcome → Option CommandError
  | (.ok (), _) => none
  | (.error e, _) => some e

/-- Giving a line to the interpreter has led from `g` to `k`, with the same failure as an outcome
and with the same effect: the board with the robot, the variables, whether the session is won, and
all that was logged. -/
structure SameEffect (g : Game) (line : Text) (outcome : Outcome) (k : Game) : Prop where
  ran_eq : k.ran = g.ran ++ [(line, failure? outcome)]
  board_eq : k.session.board = outcome.2.session.board
  env_eq : k.session.env = outcome.2.session.env
  won_eq : k.session.won = outcome.2.session.won
  transcript_eq : k.session.transcript = outcome.2.session.transcript

theorem handWith_eq (act : Game → Game) (g : Game) (line : Text) :
    g.handWith act line = (((interpreter act).interpret line g).1,
      { ((interpreter act).interpret line g).2 with
        ran := ((interpreter act).interpret line g).2.ran ++
          [(line, failure? ((interpreter act).interpret line g))] }) := by
  unfold handWith
  rcases (interpreter act).interpret line g with ⟨e | ⟨⟩, h⟩ <;> rfl

theorem ran_interpret (act : Session → Session) (g : Game) (line : Text) :
    ((interpreter (onSession act)).interpret line g).2.ran = g.ran := by
  have hran := (ordinary_ran act).runLine (maxNesting + 1) line g
  unfold Interpreter.interpret
  generalize (interpreter (onSession act)).runLine (maxNesting + 1) line g = outcome at hran
  rcases outcome with ⟨e | ⟨⟩, h⟩ <;> exact hran

theorem interpret_trim (act : Game → Game) (g : Game) (hwords : line.trim.words = line.words) :
    (interpreter act).interpret line.trim g = (interpreter act).interpret line g := by
  rw [Interpreter.interpret_eq_interpretWords, hwords, ← Interpreter.interpret_eq_interpretWords]

/-- A trimmed line with the same words has the same effect. -/
theorem sameEffect_handWith (act : Session → Session) (g : Game)
    (hwords : line.trim.words = line.words) :
    SameEffect g line.trim ((interpreter (onSession act)).interpret line g)
      (g.handWith (onSession act) line.trim).2 := by
  rw [handWith_eq, interpret_trim _ g hwords, ran_interpret]
  exact ⟨rfl, rfl, rfl, rfl, rfl⟩

theorem SameEffect.detailed {number : Nat} {hand : Outcome}
    (hk : SameEffect g line outcome hand.2) :
    SameEffect g line outcome (detailed number hand) := by
  rcases hand with ⟨e | ⟨⟩, k⟩
  · refine { hk with transcript_eq := Eq.trans ?_ hk.transcript_eq }
    simp [Game.detailed, Session.transcript, Session.note, failedLine, Note.entry?]
  · exact hk

theorem SameEffect.stopIfWon (hk : SameEffect g line outcome k) :
    SameEffect g line outcome k.stopIfWon := by
  unfold Game.stopIfWon
  split_ifs
  · exact { hk with }
  · exact hk

theorem SameEffect.of_bothRun (hk : SameEffect g line outcome k) (hkh : BothRun k h) :
    SameEffect g line outcome h := by
  obtain ⟨hsession, hran, -, -⟩ := hkh
  refine ⟨hran.trans hk.ran_eq, ?_, ?_, ?_, ?_⟩ <;> rw [hsession]
  · exact hk.board_eq
  · exact hk.env_eq
  · exact hk.won_eq
  · exact hk.transcript_eq

/-- A tick that takes a line has the same effect as the line. -/
theorem sameEffect_stepBy (act : Session → Session) (hs : g.scheduler = some s)
    (hrun : s.running = true) (hnext : s.script[s.cursor]? = some line)
    (hwords : line.trim.words = line.words) :
    SameEffect g line.trim ((interpreter (onSession act)).interpret line g)
      (g.stepBy (handWith (onSession act))).2 := by
  have hstep : (g.stepBy (handWith (onSession act))).2 =
      g.takeLineBy (handWith (onSession act)) s line := by
    simp [stepBy, hs, hrun, hnext]
  have hboth : BothRun g { g with scheduler := some { s with cursor := s.cursor + 1 } } :=
    ⟨rfl, rfl, by simp [running, hs, hrun], by simp [running, hrun]⟩
  rw [hstep, takeLineBy]
  exact ((sameEffect_handWith act g hwords).of_bothRun
    (hboth.handWith act line.trim).2).detailed.stopIfWon

/-- A script that is run at once gives its first line to the interpreter with the same effect as the
line, and goes on from there. -/
theorem sameEffect_runDirectBy (act : Session → Session) (hwon : g.session.won = false)
    (hblank : line.trim ≠ []) (hwords : line.trim.words = line.words) (rest : List Text) :
    ∃ k, SameEffect g line.trim ((interpreter (onSession act)).interpret line g) k ∧
      g.runDirectBy (handWith (onSession act)) (line :: rest) =
        (failures ((interpreter (onSession act)).interpret line g) +
          (k.runDirectBy (handWith (onSession act)) rest).1,
          (k.runDirectBy (handWith (onSession act)) rest).2) := by
  refine ⟨_, sameEffect_handWith act g hwords, ?_⟩
  have hisEmpty : line.trim.isEmpty = false := by simpa using hblank
  have hfirst : (g.handWith (onSession act) line.trim).1 =
      ((interpreter (onSession act)).interpret line g).1 := by
    rw [handWith_eq, interpret_trim _ g hwords]
  rw [runDirectBy, hwon, hisEmpty, if_neg Bool.false_ne_true, if_neg Bool.false_ne_true]
  generalize (interpreter (onSession act)).interpret line g = outcome at hfirst
  generalize g.handWith (onSession act) line.trim = handed at hfirst
  rcases outcome with ⟨x, h⟩
  rcases handed with ⟨e | ⟨⟩, k⟩
  · obtain rfl : Except.error e = x := hfirst
    rw [failures, Nat.add_comm]
  · obtain rfl : Except.ok () = x := hfirst
    rw [failures, Nat.zero_add]

end Game

/-- A line with something on it can be given to the interpreter as it is, or by a run, which trims
it. Trimming leaves its words alone exactly if all the white space at its ends is ASCII. Then it
makes no difference how the line is given: a tick that takes it, or a script run at once that begins
with it, has the same failure and the same effect, whatever is called after a win, as long as it
acts on the session only. Without a callback these are the lines, ticks and scripts of a game. -/
theorem line_same_however_given (act : Session → Session) (g : Game) {line : Text}
    (hline : ∃ x ∈ line.runes, x.isSpace = false) :
    let outcome := (Game.interpreter (Game.onSession act)).interpret line g
    let hand := Game.handWith (Game.onSession act)
    (line.trim.words = line.words ↔ ∀ x ∈ line.outerSpaces, x.code < 0x80) ∧
    ((∀ x ∈ line.outerSpaces, x.code < 0x80) →
      (∀ s, g.scheduler = some s → s.running = true → s.script[s.cursor]? = some line →
        Game.SameEffect g line.trim outcome (g.stepBy hand).2) ∧
      (g.session.won = false → ∀ rest, ∃ k, Game.SameEffect g line.trim outcome k ∧
        g.runDirectBy hand (line :: rest) =
          (Game.failures outcome + (k.runDirectBy hand rest).1, (k.runDirectBy hand rest).2))) ∧
    (act = id → outcome = g.interpret line ∧ g.stepBy hand = g.step ∧
      ∀ lines, g.runDirectBy hand lines = g.runDirect lines) := by
  intro outcome hand
  have htrim := Text.words_trim_iff hline
  have hblank : line.trim ≠ [] := by
    rw [ne_eq, Text.trim_eq_nil_iff]
    obtain ⟨x, hx, hspace⟩ := hline
    intro hall
    rw [hall x hx] at hspace
    cases hspace
  refine ⟨htrim, fun hplain => ⟨fun s hs hrun hnext => ?_, fun hwon rest => ?_⟩, ?_⟩
  · exact Game.sameEffect_stepBy act hs hrun hnext (htrim.2 hplain)
  · exact Game.sameEffect_runDirectBy act hwon hblank (htrim.2 hplain) rest
  · rintro rfl
    have hhand : hand = Game.hand := Game.handWith_id
    refine ⟨(g.interpret_eq line).symm, ?_, fun lines => ?_⟩
    · rw [hhand, Game.stepBy_hand]
    · rw [hhand, Game.runDirectBy_hand]

/-- A callback that takes the next line by itself finds another one there if a tick has moved on. -/
example :
    let line := Text.ofString "MOVER DIREITA 1"
    let takeNext := fun g : Game => g.step.2
    ∃ s, Session.start (.fixed ⟨3, ⟨0, 0⟩, ⟨0, 1⟩, []⟩) .inert = .ok s ∧
      let g := ((Game.ofSession s).attach
        (.new [line, Text.ofString "MOVER BAIXO 1"] .second .second)).start
      ((Game.interpreter takeNext).interpret line g).2.session.board.robot = ⟨0, 2⟩ ∧
      (g.stepBy (Game.handWith takeNext)).2.session.board.robot = ⟨1, 1⟩ :=
  ⟨_, rfl, by decide +kernel⟩

/-- A move with blanks around it wins and is followed by a reset, whether it is given as it is, by a
tick or by a script. -/
theorem winning_move_same_however_given :
    let line := Text.ofString "\t MOVER DIREITA 1\r\n"
    ∃ s, Session.start (.fixed ⟨2, ⟨0, 0⟩, ⟨0, 1⟩, []⟩) .reset = .ok s ∧
      let g := ((Game.ofSession s).attach (.new [line] .second .second)).start
      (∃ x ∈ line.runes, x.isSpace = false) ∧ (∀ x ∈ line.outerSpaces, x.code < 0x80) ∧
      Game.SameEffect g line.trim (g.interpret line) g.step.2 ∧
      ∃ k, Game.SameEffect g line.trim (g.interpret line) k ∧ g.runDirect [line] = (0, k) := by
  intro line
  have hs : Session.start (.fixed ⟨2, ⟨0, 0⟩, ⟨0, 1⟩, []⟩) .reset = .ok _ := rfl
  refine ⟨_, hs, ?_⟩
  intro g
  have hline : ∃ x ∈ line.runes, x.isSpace = false := ⟨.char 'M', by decide +kernel⟩
  have hplain : ∀ x ∈ line.outerSpaces, x.code < 0x80 := by decide +kernel
  obtain ⟨-, hsame, hgame⟩ := line_same_however_given id g hline
  obtain ⟨houtcome, hstep, hdirect⟩ := hgame rfl
  obtain ⟨htick, hscript⟩ := hsame hplain
  rw [houtcome] at htick hscript
  refine ⟨hline, hplain, ?_, ?_⟩
  · rw [← hstep]
    exact htick _ rfl rfl rfl
  · obtain ⟨k, hk, hrun⟩ := hscript rfl []
    have hfailures : Game.failures (g.interpret line) = 0 := by decide +kernel
    rw [hdirect, hfailures] at hrun
    exact ⟨k, hk, hrun⟩

/-- A no-break space at the end of a line belongs to its last word where the line is given as it is,
and is trimmed by a tick and by a script. -/
theorem no_break_space_at_end_differs :
    let line := Text.ofString "VAR X 5\u00a0"
    ∃ s, Session.start (.fixed ⟨2, ⟨0, 0⟩, ⟨1, 1⟩, []⟩) .inert = .ok s ∧
      let g := ((Game.ofSession s).attach (.new [line] .second .second)).start
      (∃ x ∈ line.runes, x.isSpace = false) ∧ line.trim.words ≠ line.words ∧
      (g.interpret line).2.session.env.get? (Text.ofString "X") = some 0 ∧
      g.step.2.session.env.get? (Text.ofString "X") = some 5 ∧
      (g.runDirect [line]).2.session.env.get? (Text.ofString "X") = some 5 := by
  intro line
  have hs : Session.start (.fixed ⟨2, ⟨0, 0⟩, ⟨1, 1⟩, []⟩) .inert = .ok _ := rfl
  refine ⟨_, hs, ⟨.char 'V', by decide +kernel⟩, ?_⟩
  decide +kernel

end GridRobot
