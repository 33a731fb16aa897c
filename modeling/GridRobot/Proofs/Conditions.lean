import GridRobot.Game
import GridRobot.Proofs.Words

/-!
# Conditions, word by word

After a condition that holds, the interpreter puts the words of the action together to a line and
takes that line apart again. `Interpreter.runLine` does this for any kind of state that can answer
conditions and execute commands, and `Interpreter.runWords` goes over the words of the line instead,
with a count of the conditions that have held. The two agree (`Interpreter.runLine_eq_runWords`),
since the words of a line survive being put together and taken apart.

A game is such a state (`Game.interpreter`). What is done about a win happens in the middle of a
line, inside of a condition or of a command, and so it may be anything at all.
-/

namespace GridRobot

/-- What it takes to run lines against states of some kind. -/
structure Interpreter (σ : Type) where
  /-- Whether a condition holds. -/
  evaluate : σ → Text → Text → Except CommandError Bool × σ
  /-- Executes words as one command that is no condition. -/
  execute : σ → List Text → Except CommandError Unit × σ
  /-- Reports a message. -/
  log : σ → Text → Bool → σ

namespace Interpreter

variable {σ : Type} (m : Interpreter σ)

/-- Runs a line under at most `levels` nested conditions, itself counted as one. An action is put
together to a line of its own. -/
def runLine : Nat → Text → σ → Except CommandError Unit × σ
  | 0, _, s => (.error .nestedTooDeep, s)
  | levels + 1, line, s =>
    match line.words with
    | [] => m.execute s []
    | first :: args =>
      if first.upper = Keyword.cond.word then
        match args with
        | condition :: expected :: word :: rest =>
          let condition := condition.upper
          let expected := expected.upper
          let action := Text.join [32] (word :: rest)
          match m.evaluate s condition expected with
          | (.error e, s) => (.error e, s)
          | (.ok false, s) => (.ok (), m.log s (Game.unmetMessage condition expected) false)
          | (.ok true, s) =>
            runLine levels action (m.log s (Game.metMessage condition expected action) false)
        | _ => (.error (.usage .cond), s)
      else m.execute s (first :: args)

/-- Runs the words of a line after `held` conditions have held. No text is put together but for the
message that shows it. -/
def runWords (held : Nat) (words : List Text) (s : σ) : Except CommandError Unit × σ :=
  if maxNesting < held then (.error .nestedTooDeep, s)
  else
    match words with
    | [] => m.execute s []
    | first :: args =>
      if first.upper = Keyword.cond.word then
        match args with
        | condition :: expected :: action@(_ :: _) =>
          let condition := condition.upper
          let expected := expected.upper
          match m.evaluate s condition expected with
          | (.error e, s) => (.error e, s)
          | (.ok false, s) => (.ok (), m.log s (Game.unmetMessage condition expected) false)
          | (.ok true, s) =>
            runWords (held + 1) action
              (m.log s (Game.metMessage condition expected (Text.join [32] action)) false)
        | _ => (.error (.usage .cond), s)
      else m.execute s (first :: args)

/-- An outcome with its failure, if it is one, reported as an error. -/
def report : Except CommandError Unit × σ → Except CommandError Unit × σ
  | (.ok (), s) => (.ok (), s)
  | (.error e, s) => (.error e, m.log s e.message true)

/-- Runs one line and reports its failure. -/
def interpret (line : Text) (s : σ) : Except CommandError Unit × σ :=
  m.report (m.runLine (maxNesting + 1) line s)

/-- Runs the words of one line and reports their failure. -/
def interpretWords (words : List Text) (s : σ) : Except CommandError Unit × σ :=
  m.report (m.runWords 0 words s)

theorem runWords_of_lt {held : Nat} (hheld : maxNesting < held) (words : List Text) (s : σ) :
    m.runWords held words s = (.error .nestedTooDeep, s) := by
  rw [runWords.eq_def, if_pos hheld]

/-- Running a line is running its words: with every condition that holds there is one level less
left for the action, whose words are the rest of the words. -/
theorem runLine_eq_runWords {held levels : Nat} (hlevels : held + levels = maxNesting + 1)
    (line : Text) (s : σ) : m.runLine levels line s = m.runWords held line.words s := by
  induction levels generalizing held line s with
  | zero =>
    rw [runWords_of_lt m (by omega)]
    rfl
  | succ levels ih =>
    have hwords := Text.isWord_of_mem_words line
    rw [runLine, runWords.eq_def, if_neg (by omega)]
    generalize line.words = words at hwords
    cases words with
    | nil => rfl
    | cons first args =>
      dsimp only
      split_ifs
      · rcases args with _ | ⟨condition, _ | ⟨expected, _ | ⟨word, rest⟩⟩⟩
        · rfl
        · rfl
        · rfl
        · dsimp only
          rcases m.evaluate s condition.upper expected.upper with ⟨e | _ | _, s⟩
          · rfl
          · rfl
          · have haction : ∀ w ∈ word :: rest, Text.IsWord w := fun w hw =>
              hwords w (List.mem_cons_of_mem _ (List.mem_cons_of_mem _ (List.mem_cons_of_mem _ hw)))
            have hnext : held + 1 + levels = maxNesting + 1 := by omega
            dsimp only
            rw [ih hnext, Text.words_join haction]
      · rfl

theorem interpret_eq_interpretWords (line : Text) (s : σ) :
    m.interpret line s = m.interpretWords line.words s := by
  rw [interpret, interpretWords, runLine_eq_runWords m (Nat.zero_add _)]

end Interpreter

theorem Keyword.ofWord_eq_cond_iff (name : Text) : ofWord name = cond ↔ name = cond.word := by
  constructor
  · intro h
    rcases hfind : all.find? (fun k => k.word == name) with _ | k
    · simp [ofWord, hfind] at h
    · obtain rfl : k = cond := by simpa [ofWord, hfind] using h
      have hname := List.find?_some hfind
      exact (beq_iff_eq.1 hname).symm
  · rintro rfl
    decide

namespace Game

variable {α : Type}

/-- Executes words as one command; a condition is none here. -/
def execute (g : Game) (words : List Text) : Outcome :=
  let command := Command.ofWords words
  match command.keyword with
  | .var => g.execVar command.args
  | .move => g.execMove command.args
  | .help => g.execHelp command.args
  | .list => g.execList command.args
  | .start => g.execStart command.args
  | .unknown | .cond => (.error .unknownCommand, g)

/-- The outcome of something that was done to a game, with `act` called if it has counted a win. -/
def calling (act : Game → Game) (g : Game) (outcome : α × Game) : α × Game :=
  if outcome.2.session.wins.length = g.session.wins.length then outcome
  else (outcome.1, act outcome.2)

theorem calling_id (g : Game) (outcome : α × Game) : calling id g outcome = outcome := by
  unfold calling
  split_ifs <;> rfl

/-- Games as lines are run against them, where wins are followed by `act` besides what the policy
of the session says. -/
def interpreter (act : Game → Game) : Interpreter Game where
  evaluate g condition expected := calling act g (g.evalCondition condition expected)
  execute g words := calling act g (g.execute words)
  log g message isError := { g with session := g.session.log message isError }

/-- Where nothing is done about a win but what the policy says, lines are run as they always are. -/
theorem runLine_eq (levels : Nat) (line : Text) (g : Game) :
    runLine levels line g = (interpreter id).runLine levels line g := by
  induction levels generalizing line g with
  | zero => rfl
  | succ levels ih =>
    rw [runLine, Interpreter.runLine]
    cases line.words with
    | nil => exact (calling_id g _).symm
    | cons first args =>
      have hcommand : Command.ofWords (first :: args) =
        ⟨.ofWord first.upper, first.upper, args⟩ := rfl
      have hkeyword := Keyword.ofWord_eq_cond_iff first.upper
      rw [hcommand]
      dsimp only
      split_ifs with hcond
      · rw [hkeyword.2 hcond]
        rcases args with _ | ⟨condition, _ | ⟨expected, _ | ⟨word, rest⟩⟩⟩
        · rfl
        · rfl
        · rfl
        · have heval : (interpreter id).evaluate g condition.upper expected.upper =
              g.evalCondition condition.upper expected.upper := calling_id g _
          dsimp only
          rw [heval]
          rcases g.evalCondition condition.upper expected.upper with ⟨e | _ | _, h⟩
          · rfl
          · rfl
          · exact ih _ _
      · have hexecute : (interpreter id).execute g (first :: args) = g.execute (first :: args) :=
          calling_id g _
        rw [hexecute, execute, hcommand]
        cases hk : Keyword.ofWord first.upper with
        | cond => exact absurd (hkeyword.1 hk) hcond
        | _ => rfl

/-- A game reports a failure once, as any interpreter does. -/
theorem interpret_eq (g : Game) (line : Text) :
    g.interpret line = (interpreter id).interpret line g := by
  rw [interpret, runLine_eq, Interpreter.interpret]
  rcases (interpreter id).runLine (maxNesting + 1) line g with ⟨e | _, h⟩ <;> rfl

end Game

/-- A line that is run by putting together the words of each action and taking them apart again has
the same outcome as its words, gone over one condition after the other until 33 of them have held:
the same failure, and the same game with the same journal, whatever is done about a win on the way.
Where only the policy of the session acts on a win, this is how a game interprets the line. -/
theorem line_runs_as_its_words (act : Game → Game) (g : Game) (line : Text) :
    (Game.interpreter act).interpret line g = (Game.interpreter act).interpretWords line.words g ∧
      g.interpret line = (Game.interpreter id).interpretWords line.words g := by
  have hwords := (Game.interpreter id).interpret_eq_interpretWords line g
  exact ⟨(Game.interpreter act).interpret_eq_interpretWords line g,
    (g.interpret_eq line).trans hwords⟩

end GridRobot
