import GridRobot.Scheduler
import Mathlib.Logic.Relation
import Mathlib.Tactic.SplitIfs

/-!
# What a line does

A line is a chain of conditions with a command at its end. `Game.runLine_cases` takes it apart that
way: the game passes conditions that hold (`Game.Pass`), and then the line ends (`Game.Ending`), by
a failure that leaves the game alone, by a condition that does not hold, or by a command that
succeeds.

What is to be known of the game after every line follows from what the elementary changes do:
`Game.Orderly` lists those of a line that succeeds for a relation from a game to later ones, and
`Game.Onward` adds the report of a failure. `Onward.interpret` says that such a relation holds
across a line, however deep its conditions go. Lines never say what only a run says
(`Game.runMessages`).
-/

open Relation (ReflTransGen)

namespace GridRobot

/-- The session once the robot has moved on the board and said so, before it looks for a win. -/
def Session.arrive (s : Session) (b : Board) : Session :=
  { s with board := b }.say (Text.ofString "Movendo o robô para posição " ++ b.robot.text)

namespace Game

variable {g h : Game}

/-! ## Conditions and commands -/

/-- What evaluating a condition does: nothing, or it answers whether the robot stands on the target
and looks for a win. -/
theorem evalCondition_cases (g : Game) (condition expected : Text) :
    (g.evalCondition condition expected).2 = g ∨
      g.evalCondition condition expected =
        (.ok g.session.board.atTarget, { g with session := g.session.checkWin.2 }) := by
  unfold evalCondition
  dsimp only
  split_ifs
  · split <;> exact .inl rfl
  · exact .inr rfl
  · exact .inl rfl
  · exact .inl rfl

/-- A condition that cannot be evaluated leaves the game alone. -/
theorem eq_of_evalCondition_error {condition expected : Text} {e : CommandError}
    (heval : g.evalCondition condition expected = (.error e, h)) : h = g := by
  rcases g.evalCondition_cases condition expected with hsame | hcheck
  · rw [heval] at hsame
    exact hsame
  · rw [heval] at hcheck
    cases hcheck

/-- What a move command does: it fails and changes nothing, or the robot moves and the game looks
whether it has won. -/
theorem execMove_cases (g : Game) (args : List Text) :
    (∃ e, g.execMove args = (.error e, g)) ∨
      ∃ d n b, g.session.board.move d n = .ok b ∧
        g.execMove args = (.ok (), { g with session := (g.session.arrive b).checkWin.2 }) := by
  unfold execMove moveRobot
  split
  · split
    · exact .inl ⟨_, rfl⟩
    · split
      · exact .inl ⟨_, rfl⟩
      · split
        · exact .inl ⟨_, rfl⟩
        · next hmove => exact .inr ⟨_, _, _, hmove, rfl⟩
  · exact .inl ⟨_, rfl⟩

theorem foldl_say_eq (g : Game) (messages : List Text) :
    messages.foldl say g = { g with session := messages.foldl Session.say g.session } := by
  induction messages generalizing g with
  | nil => rfl
  | cons m messages ih => exact ih (g.say m)

/-- What is said when obstacles are listed. -/
def listing (obstacles : List Position) : List Text :=
  if obstacles.isEmpty then [Text.ofString "Nenhum obstáculo encontrado no tabuleiro."]
  else Text.ofString "Posições dos obstáculos no tabuleiro:" :: obstacleLines 1 obstacles

theorem execList_cons (g : Game) (what : Text) (rest : List Text) :
    g.execList (what :: rest) =
      if what.upper ≠ Text.ofString "OBSTACULOS" then (.error (.unknownList what.upper), g)
      else (.ok (), (listing g.session.board.obstacles).foldl say g) := by
  unfold execList listing
  dsimp only
  split_ifs <;> rfl

/-! ## Taking a line apart -/

/-- A condition of a line holds, and the line goes on. -/
inductive Pass : Game → Game → Prop where
  | holds {g h : Game} {condition expected : Text} (action : Text)
      (heval : g.evalCondition condition expected = (.ok true, h)) :
      Pass g (h.say (metMessage condition expected action))

/-- How a line ends, once all conditions before its last command hold. -/
inductive Ending (g : Game) : Outcome → Prop where
  | fail (e : CommandError) : Ending g (.error e, g)
  /-- The next condition does not hold. -/
  | unmet {h : Game} {condition expected : Text}
      (heval : g.evalCondition condition expected = (.ok false, h)) :
      Ending g (.ok (), h.say (unmetMessage condition expected))
  | assign (name : Text) (value : Int64) :
      Ending g (.ok (), { g with
        session := { g.session with env := g.session.env.set name value }.say
          (Text.ofString "Variável " ++ name ++ Text.ofString " definida com valor " ++
            Text.ofInt64 value) })
  | move {d : Direction} {n : Int64} {b : Board} (hmove : g.session.board.move d n = .ok b) :
      Ending g (.ok (), { g with session := (g.session.arrive b).checkWin.2 })
  | help : Ending g (.ok (), helpText.foldl say g)
  | list : Ending g (.ok (), (listing g.session.board.obstacles).foldl say g)
  | start : Ending g (.ok (), g.start)

theorem Ending.eq_of_error {e : CommandError} (hend : Ending g (.error e, h)) : h = g := by
  cases hend
  rfl

theorem ending_execVar (g : Game) (args : List Text) : Ending g (g.execVar args) := by
  unfold execVar
  split
  · exact .assign _ _
  · exact .fail _

theorem ending_execMove (g : Game) (args : List Text) : Ending g (g.execMove args) := by
  obtain ⟨e, hfail⟩ | ⟨d, n, b, hmove, hok⟩ := g.execMove_cases args
  · rw [hfail]
    exact .fail e
  · rw [hok]
    exact .move hmove

theorem ending_execHelp (g : Game) (args : List Text) : Ending g (g.execHelp args) := by
  unfold execHelp
  split
  · exact .help
  · exact .fail _

theorem ending_execList (g : Game) (args : List Text) : Ending g (g.execList args) := by
  rcases args with _ | ⟨what, rest⟩
  · exact .fail _
  · rw [execList_cons]
    split_ifs
    · exact .fail _
    · exact .list

theorem ending_execStart (g : Game) (args : List Text) : Ending g (g.execStart args) := by
  unfold execStart
  split
  · dsimp only
    split_ifs
    · exact .fail _
    · exact .start
  · exact .fail _

/-- What a line does: conditions that hold are passed one after the other, and then it ends. -/
theorem runLine_cases (levels : Nat) (line : Text) (g : Game) :
    ∃ h, ReflTransGen Pass g h ∧ Ending h (runLine levels line g) := by
  induction levels generalizing line g with
  | zero => exact ⟨g, .refl, .fail _⟩
  | succ levels ih =>
    unfold runLine
    dsimp only
    split
    · exact ⟨g, .refl, g.ending_execVar _⟩
    · exact ⟨g, .refl, g.ending_execMove _⟩
    · exact ⟨g, .refl, g.ending_execHelp _⟩
    · exact ⟨g, .refl, g.ending_execList _⟩
    · exact ⟨g, .refl, g.ending_execStart _⟩
    · exact ⟨g, .refl, .fail _⟩
    · split
      · split
        · next heval =>
          obtain rfl := eq_of_evalCondition_error heval
          exact ⟨_, .refl, .fail _⟩
        · next heval => exact ⟨g, .refl, .unmet heval⟩
        · next heval =>
          -- the action is a line of its own, under one level less
          obtain ⟨h, hpass, hend⟩ := ih _ (say _ _)
          exact ⟨h, .head (.holds _ heval) hpass, hend⟩
      · exact ⟨g, .refl, .fail _⟩

/-- What interpreting a line does: if it succeeds, it is as the line ends; a failure leaves the game
as it is after the last condition that held, but for its message. -/
theorem interpret_cases (g : Game) (line : Text) :
    ∃ h, ReflTransGen Pass g h ∧
      ((∃ k, Ending h (.ok (), k) ∧ g.interpret line = (.ok (), k)) ∨
        ∃ e, g.interpret line =
          (.error e, { h with session := h.session.log e.message true })) := by
  obtain ⟨h, hpass, hend⟩ := runLine_cases (maxNesting + 1) line g
  refine ⟨h, hpass, ?_⟩
  unfold interpret
  split
  · next k hrun =>
    rw [hrun] at hend
    exact .inl ⟨k, hend, rfl⟩
  · next e k hrun =>
    rw [hrun] at hend
    obtain rfl := hend.eq_of_error
    exact .inr ⟨e, rfl⟩

/-! ## What lines say -/

/-- The messages of a run, which no line says. -/
def runMessages : List Text :=
  [startMessage, doneMessage]

/-- A message that begins as no message of a run does is none. -/
theorem notMem_runMessages {message : Text} (opening : Text)
    (hopening : (runMessages.any fun m => opening.isPrefixOf m) = false)
    (hmessage : opening <+: message) : message ∉ runMessages := by
  intro hmem
  have hnone := List.any_eq_false.1 hopening message hmem
  exact hnone (List.isPrefixOf_iff_prefix.2 hmessage)

theorem metMessage_notMem (condition expected action : Text) :
    metMessage condition expected action ∉ runMessages := by
  unfold metMessage
  rw [List.append_assoc, List.append_assoc]
  exact notMem_runMessages _ (by decide) (List.prefix_append _ _)

theorem unmetMessage_notMem (condition expected : Text) :
    unmetMessage condition expected ∉ runMessages := by
  unfold unmetMessage
  rw [List.append_assoc]
  exact notMem_runMessages _ (by decide) (List.prefix_append _ _)

theorem message_notMem (e : CommandError) : e.message ∉ runMessages := by
  cases e with
  | usage | unknownCondition =>
    exact notMem_runMessages _ (by decide) (List.prefix_append _ _)
  | unknownList | unknownStart | undefinedVariable =>
    simp only [CommandError.message, List.append_assoc]
    exact notMem_runMessages _ (by decide) (List.prefix_append _ _)
  | unknownCommand | unknownDirection | outOfBounds | collision | nestedTooDeep => decide

theorem helpText_notMem : ∀ message ∈ helpText, message ∉ runMessages := by
  decide

theorem obstacleLines_notMem (first : Nat) (obstacles : List Position) :
    ∀ message ∈ obstacleLines first obstacles, message ∉ runMessages := by
  induction obstacles generalizing first with
  | nil => simp [obstacleLines]
  | cons p obstacles ih =>
    intro message hmessage
    rw [obstacleLines, List.mem_cons] at hmessage
    obtain rfl | hmessage := hmessage
    · rw [List.append_assoc, List.append_assoc]
      exact notMem_runMessages _ (by decide) (List.prefix_append _ _)
    · exact ih (first + 1) message hmessage

theorem listing_notMem (obstacles : List Position) :
    ∀ message ∈ listing obstacles, message ∉ runMessages := by
  unfold listing
  split_ifs
  · decide
  · intro message hmessage
    obtain rfl | hmessage := List.mem_cons.1 hmessage
    · decide
    · exact obstacleLines_notMem 1 obstacles message hmessage

/-! ## Relations across lines -/

/-- A relation from games to later ones that holds across every elementary change by a command that
succeeds. -/
structure Orderly (R : Game → Game → Prop) : Prop where
  refl : ∀ g, R g g
  trans : ∀ {g h k}, R g h → R h k → R g k
  say : ∀ (g : Game) {message : Text}, message ∉ runMessages → R g (g.say message)
  assign : ∀ (g : Game) (name : Text) (value : Int64),
    R g { g with session := { g.session with env := g.session.env.set name value } }
  move : ∀ {g : Game} {d : Direction} {n : Int64} {b : Board}, g.session.board.move d n = .ok b →
    R g { g with session := { g.session with board := b } }
  checkWin : ∀ g : Game, R g { g with session := g.session.checkWin.2 }
  start : ∀ g : Game, R g g.start

/-- A relation from games to later ones that holds across every elementary change by a command, the
report of a failure among them. -/
structure Onward (R : Game → Game → Prop) : Prop extends Orderly R where
  log : ∀ (g : Game) {message : Text} (isError : Bool), message ∉ runMessages →
    R g { g with session := g.session.log message isError }
  say := fun g _ hmessage => log g false hmessage

namespace Orderly

variable {R : Game → Game → Prop}

theorem foldl_say (hR : Orderly R) (g : Game) (messages : List Text)
    (hmessages : ∀ message ∈ messages, message ∉ runMessages) :
    R g (messages.foldl Game.say g) := by
  induction messages generalizing g with
  | nil => exact hR.refl g
  | cons m messages ih =>
    rw [List.forall_mem_cons] at hmessages
    exact hR.trans (hR.say g hmessages.1) (ih (g.say m) hmessages.2)

theorem evalCondition (hR : Orderly R) (g : Game) (condition expected : Text) :
    R g (g.evalCondition condition expected).2 := by
  rcases g.evalCondition_cases condition expected with hsame | hcheck
  · rw [hsame]
    exact hR.refl g
  · rw [hcheck]
    exact hR.checkWin g

theorem pass (hR : Orderly R) (hpass : Pass g h) : R g h := by
  cases hpass with
  | @holds _ condition expected action heval =>
    have hcond := hR.evalCondition g condition expected
    rw [heval] at hcond
    exact hR.trans hcond (hR.say _ (metMessage_notMem condition expected action))

theorem passes (hR : Orderly R) (hpass : ReflTransGen Pass g h) : R g h := by
  induction hpass with
  | refl => exact hR.refl g
  | tail _ hlast ih => exact hR.trans ih (hR.pass hlast)

theorem ending (hR : Orderly R) {outcome : Outcome} (hend : Ending g outcome) : R g outcome.2 := by
  cases hend with
  | fail => exact hR.refl g
  | @unmet _ condition expected heval =>
    have hcond := hR.evalCondition g condition expected
    rw [heval] at hcond
    exact hR.trans hcond (hR.say _ (unmetMessage_notMem _ _))
  | assign name value =>
    refine hR.trans (hR.assign g name value) (hR.say _ ?_)
    rw [List.append_assoc, List.append_assoc]
    exact notMem_runMessages _ (by decide) (List.prefix_append _ _)
  | @move d n b hmove =>
    have hsay : R { g with session := { g.session with board := b } }
        { g with session := g.session.arrive b } :=
      hR.say _ (notMem_runMessages _ (by decide) (List.prefix_append _ _))
    exact hR.trans (hR.move hmove) (hR.trans hsay (hR.checkWin _))
  | help => exact hR.foldl_say g helpText helpText_notMem
  | list => exact hR.foldl_say g _ (listing_notMem _)
  | start => exact hR.start g

end Orderly

namespace Onward

variable {R : Game → Game → Prop}

/-- What holds across every change by a command holds across a line. -/
theorem interpret (hR : Onward R) (g : Game) (line : Text) : R g (g.interpret line).2 := by
  obtain ⟨h, hpass, ⟨k, hend, hok⟩ | ⟨e, hfail⟩⟩ := g.interpret_cases line
  · rw [hok]
    exact hR.trans (hR.passes hpass) (hR.ending hend)
  · rw [hfail]
    exact hR.trans (hR.passes hpass) (hR.log h true (message_notMem e))

/-- A relation that takes no notice of the record of lines holds across a line that is recorded. -/
theorem hand (hR : Onward R) (hran : ∀ (g : Game) ran, R g { g with ran }) (g : Game)
    (line : Text) : R g (g.hand line).2 := by
  have hline := hR.interpret g line
  unfold Game.hand
  split <;>
  · next hinterpret =>
    rw [hinterpret] at hline
    exact hR.trans hline (hran _ _)

theorem runDirect (hR : Onward R) (hran : ∀ (g : Game) ran, R g { g with ran }) (g : Game)
    (lines : List Text) : R g (g.runDirect lines).2 := by
  induction lines generalizing g with
  | nil => exact hR.refl g
  | cons line rest ih =>
    unfold Game.runDirect
    dsimp only
    split_ifs
    · exact hR.refl g
    · exact ih g
    · have hline := hR.hand hran g line.trim
      split <;>
      · next k hhand =>
        rw [hhand] at hline
        exact hR.trans hline (ih k)

variable {Q : Session → Session → Prop}

/-- A relation between sessions that takes no notice of details holds across the tick that takes a
line. -/
theorem takeLine (hQ : Onward fun g h => Q g.session h.session)
    (hdebug : ∀ s message attrs, Q s (s.note (.debug message attrs))) (g : Game) (s : Scheduler)
    (line : Text) : Q g.session (g.takeLine s line).session := by
  have hline := hQ.hand (fun g _ => hQ.refl g)
    { g with scheduler := some { s with cursor := s.cursor + 1 } } line.trim
  unfold Game.takeLine
  dsimp only
  split
  · next h hhand =>
    rw [hhand] at hline
    split_ifs <;> exact hline
  · next e h hhand =>
    rw [hhand] at hline
    have hfailed : Q g.session (h.session.note (failedLine (s.cursor + 1) e)) :=
      hQ.trans (k := { h with session := _ }) hline (hdebug h.session _ _)
    split_ifs <;> exact hfailed

theorem step (hQ : Onward fun g h => Q g.session h.session)
    (hdebug : ∀ s message attrs, Q s (s.note (.debug message attrs)))
    (hdone : ∀ s : Session, Q s (s.say doneMessage)) (g : Game) :
    Q g.session g.step.2.session := by
  unfold Game.step
  split
  · exact hQ.refl g
  · split_ifs
    · exact hQ.refl g
    · split
      · exact hdone g.session
      · exact hQ.takeLine hdebug g _ _

end Onward

end Game

end GridRobot
