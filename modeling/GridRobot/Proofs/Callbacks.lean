import GridRobot.Proofs.Conditions
import GridRobot.Proofs.Lines
import GridRobot.Proofs.Parallel

/-!
# Callbacks on wins

What is done about a win is up to whoever has made the session: besides what the policy of the
session says, any function of games may be called (`Game.interpreter`). Scripts and the scheduler
know nothing of this. They give their lines to an interpreter (`Game.runDirectBy`, `Game.stepBy`,
`Game.serviceBy`), be it the one without a callback, with which they are the runs that we know
(`Game.runDirectBy_hand`, `Game.runBy_hand`), or one that calls `act` after a win
(`Game.handWith`).

A relation that commands keep is kept by a line with a callback, if the callback keeps it too: a
relation from a game to later ones (`Interpreter.Ordinary`), or one between two games side by side
(`Game.Parallel.handWith`).
-/

namespace GridRobot

namespace Interpreter

variable {σ : Type} {m : Interpreter σ}

/-- A relation from states to later ones that holds across everything an interpreter does on a
line, but for reporting a failure. -/
structure Ordinary (m : Interpreter σ) (R : σ → σ → Prop) : Prop where
  refl : ∀ s, R s s
  trans : ∀ {s t u}, R s t → R t u → R s u
  evaluate : ∀ s condition expected, R s (m.evaluate s condition expected).2
  execute : ∀ s words, R s (m.execute s words).2
  say : ∀ s message, R s (m.log s message false)

theorem Ordinary.runLine {R : σ → σ → Prop} (hR : m.Ordinary R) (levels : Nat) (line : Text)
    (s : σ) : R s (m.runLine levels line s).2 := by
  induction levels generalizing line s with
  | zero => exact hR.refl s
  | succ levels ih =>
    rw [Interpreter.runLine]
    rcases line.words with _ | ⟨first, args⟩
    · exact hR.execute s []
    · dsimp only
      split_ifs
      · rcases args with _ | ⟨condition, _ | ⟨expected, _ | ⟨word, rest⟩⟩⟩
        · exact hR.refl s
        · exact hR.refl s
        · exact hR.refl s
        · have heval := hR.evaluate s condition.upper expected.upper
          dsimp only
          generalize m.evaluate s condition.upper expected.upper = outcome at heval
          rcases outcome with ⟨e | _ | _, t⟩
          · exact heval
          · exact hR.trans heval (hR.say t _)
          · exact hR.trans heval (hR.trans (hR.say t _) (ih _ _))
      · exact hR.execute s (first :: args)

end Interpreter

namespace Game

variable {α : Type} {act : Game → Game} {g h : Game}

theorem ending_execute (g : Game) (words : List Text) : Ending g (g.execute words) := by
  unfold execute
  dsimp only
  split
  · exact g.ending_execVar _
  · exact g.ending_execMove _
  · exact g.ending_execHelp _
  · exact g.ending_execList _
  · exact g.ending_execStart _
  · exact .fail _
  · exact .fail _

theorem calling_cases (act : Game → Game) (g : Game) (outcome : α × Game) :
    calling act g outcome = outcome ∨ calling act g outcome = (outcome.1, act outcome.2) := by
  unfold calling
  split_ifs
  · exact .inl rfl
  · exact .inr rfl

/-! ## Lines -/

/-- Gives a line to the interpreter that calls `act` after a win, and keeps a record of it. -/
def handWith (act : Game → Game) (g : Game) (line : Text) : Outcome :=
  match (interpreter act).interpret line g with
  | (.ok (), g) => (.ok (), { g with ran := g.ran ++ [(line, none)] })
  | (.error e, g) => (.error e, { g with ran := g.ran ++ [(line, some e)] })

theorem handWith_id : handWith id = hand := by
  funext g line
  rw [handWith, hand, interpret_eq]
  rfl

/-! ## Scripts and ticks -/

/-- Runs lines at once until the session is won, where `hand` gives a line to some interpreter.
Gives the number of lines that failed. -/
def runDirectBy (hand : Game → Text → Outcome) (g : Game) : List Text → Nat × Game
  | [] => (0, g)
  | line :: rest =>
    if g.session.won then (0, g)
    else if line.trim.isEmpty then g.runDirectBy hand rest
    else
      match hand g line.trim with
      | (.ok (), g) => g.runDirectBy hand rest
      | (.error _, g) => ((g.runDirectBy hand rest).1 + 1, (g.runDirectBy hand rest).2)

theorem runDirectBy_hand (g : Game) (lines : List Text) :
    g.runDirectBy hand lines = g.runDirect lines := by
  induction lines generalizing g with
  | nil => rfl
  | cons line rest ih =>
    rcases hline : hand g line.trim with ⟨e | ⟨⟩, h⟩
    · simp [runDirectBy, runDirect, hline, ih]
    · simp [runDirectBy, runDirect, hline, ih]

/-- What the outcome of a line leaves behind, with a detail for its failure. -/
def detailed (number : Nat) : Outcome → Game
  | (.ok (), g) => g
  | (.error e, g) => { g with session := g.session.note (failedLine number e) }

/-- The game, with its run ended if the session is won. -/
def stopIfWon (g : Game) : Game :=
  if g.session.won then g.stop else g

/-- The tick that takes a line and gives it to some interpreter. -/
def takeLineBy (hand : Game → Text → Outcome) (g : Game) (s : Scheduler) (line : Text) : Game :=
  let next := { g with scheduler := some { s with cursor := s.cursor + 1 } }
  (detailed (s.cursor + 1) (hand next line.trim)).stopIfWon

/-- One tick of the run in progress, with some interpreter. -/
def stepBy (hand : Game → Text → Outcome) (g : Game) : Tick × Game :=
  match g.scheduler with
  | none => (.idle, g)
  | some s =>
    if !s.running then (.idle, g)
    else
      match s.script[s.cursor]? with
      | none => (.done, { g with scheduler := some { s with running := false } }.say doneMessage)
      | some line => (.line (g.takeLineBy hand s line).running, g.takeLineBy hand s line)

theorem takeLineBy_hand (g : Game) (s : Scheduler) (line : Text) :
    g.takeLineBy hand s line = g.takeLine s line := by
  unfold takeLineBy takeLine stopIfWon
  dsimp only
  rcases hand { g with scheduler := some { s with cursor := s.cursor + 1 } } line.trim with
    ⟨e | ⟨⟩, h⟩ <;> rfl

theorem stepBy_hand (g : Game) : g.stepBy hand = g.step := by
  unfold stepBy step
  rcases g.scheduler with _ | s
  · rfl
  · dsimp only
    split_ifs
    · rfl
    · rcases s.script[s.cursor]? with _ | line
      · rfl
      · dsimp only
        rw [takeLineBy_hand]

/-- Services events until the run ends, with some interpreter. -/
def serviceBy (hand : Game → Text → Outcome) (look : Game → α) (g : Game) :
    List RunEvent → RunEnd × List α × Game
  | [] => (.pending, [], g)
  | .interrupt why :: _ => (.interrupted why, [], g.stop)
  | .clock :: rest => g.advanceClock.serviceBy hand look rest
  | .step :: rest =>
    match g.stepBy hand with
    | (.idle, g) => (.finished, [], g)
    | (.done, g) => (.finished, [], g)
    | (.line false, g) => (.finished, [look g.resume], g)
    | (.line true, g) =>
      let (ending, seen, g') := g.serviceBy hand look rest
      (ending, look g.resume :: seen, g')

/-- Starts a run and services events, with some interpreter. -/
def runBy (hand : Game → Text → Outcome) (look : Game → α) (g : Game) (events : List RunEvent) :
    RunEnd × List α × Game :=
  g.start.serviceBy hand look events

theorem serviceBy_hand (look : Game → α) (g : Game) (events : List RunEvent) :
    g.serviceBy hand look events = g.service look events := by
  induction events generalizing g with
  | nil => rfl
  | cons event rest ih =>
    cases event with
    | clock => exact ih g.advanceClock
    | interrupt why => rfl
    | step =>
      rw [serviceBy, service, stepBy_hand]
      rcases g.step with ⟨_ | _ | _ | _, h⟩
      · rfl
      · rfl
      · rfl
      · dsimp only
        rw [ih]

theorem runBy_hand (look : Game → α) (g : Game) (events : List RunEvent) :
    g.runBy hand look events = g.run look events :=
  g.start.serviceBy_hand look events

/-! ## Games side by side -/

/-- Where what is logged keeps games related, the report of a failure does. -/
theorem Agree.report {R : Game → Game → Prop}
    (hlog : ∀ {g h}, R g h → ∀ message isError,
      R { g with session := g.session.log message isError }
        { h with session := h.session.log message isError })
    {x y : Outcome} (hxy : Agree R x y) :
    Agree R ((interpreter act).report x) ((interpreter act).report y) := by
  obtain ⟨x, g, h, rfl, rfl, hgh⟩ := hxy.exists_eq
  rcases x with e | ⟨⟩
  · exact ⟨rfl, hlog hgh e.message true⟩
  · exact ⟨rfl, hgh⟩

namespace Parallel

variable {R : Game → Game → Prop}

theorem execute (hR : Parallel R) (hgh : R g h) (words : List Text) :
    Agree R (g.execute words) (h.execute words) := by
  unfold Game.execute
  dsimp only
  split
  · exact hR.alongside.execVar hgh _
  · exact hR.alongside.execMove hgh _
  · exact hR.alongside.execHelp hgh _
  · exact hR.alongside.execList hgh _
  · exact hR.alongside.execStart hgh _
  · exact ⟨rfl, hgh⟩
  · exact ⟨rfl, hgh⟩

/-- Games that agree on how many wins were counted call on a callback together. -/
theorem calling (hwins : ∀ {g h}, R g h → h.session.wins.length = g.session.wins.length)
    (hact : ∀ {g h}, R g h → R (act g) (act h)) (hgh : R g h) {x y : α × Game}
    (hxy : Agree R x y) : Agree R (calling act g x) (calling act h y) := by
  unfold Game.calling
  rw [hwins hgh, hwins hxy.2]
  split_ifs
  · exact hxy
  · exact ⟨hxy.1, hact hxy.2⟩

theorem runLineWith (hR : Parallel R)
    (hwins : ∀ {g h}, R g h → h.session.wins.length = g.session.wins.length)
    (hact : ∀ {g h}, R g h → R (act g) (act h)) (hgh : R g h) (levels : Nat) (line : Text) :
    Agree R ((interpreter act).runLine levels line g)
      ((interpreter act).runLine levels line h) := by
  induction levels generalizing line g h with
  | zero => exact ⟨rfl, hgh⟩
  | succ levels ih =>
    have hexecute (words : List Text) : Agree R ((interpreter act).execute g words)
        ((interpreter act).execute h words) := calling hwins hact hgh (hR.execute hgh words)
    rw [Interpreter.runLine, Interpreter.runLine]
    rcases line.words with _ | ⟨first, args⟩
    · exact hexecute []
    · dsimp only
      split_ifs
      · rcases args with _ | ⟨condition, _ | ⟨expected, _ | ⟨word, rest⟩⟩⟩
        · exact ⟨rfl, hgh⟩
        · exact ⟨rfl, hgh⟩
        · exact ⟨rfl, hgh⟩
        · have heval : Agree R ((interpreter act).evaluate g condition.upper expected.upper)
              ((interpreter act).evaluate h condition.upper expected.upper) :=
            calling hwins hact hgh (hR.alongside.evalCondition hgh _ _)
          obtain ⟨x, g', h', hg, hh, hgames⟩ := heval.exists_eq
          dsimp only
          rw [hg, hh]
          rcases x with e | _ | _
          · exact ⟨rfl, hgames⟩
          · exact ⟨rfl, hR.log hgames _ false⟩
          · exact ih (hR.log hgames _ false) _
      · exact hexecute (first :: args)

/-- A line has the same outcome in games side by side, if the callback keeps them so. -/
theorem handWith (hR : Parallel R)
    (hwins : ∀ {g h}, R g h → h.session.wins.length = g.session.wins.length)
    (hact : ∀ {g h}, R g h → R (act g) (act h))
    (hran : ∀ {g h}, R g h → ∀ entry,
      R { g with ran := g.ran ++ [entry] } { h with ran := h.ran ++ [entry] })
    (hgh : R g h) (line : Text) : Agree R (g.handWith act line) (h.handWith act line) := by
  have hline : Agree R ((interpreter act).interpret line g) ((interpreter act).interpret line h) :=
    (hR.runLineWith hwins hact hgh (maxNesting + 1) line).report hR.log
  obtain ⟨x, g', h', hg, hh, hgames⟩ := hline.exists_eq
  unfold Game.handWith
  rw [hg, hh]
  rcases x with e | _
  · exact ⟨rfl, hran hgames _⟩
  · exact ⟨rfl, hran hgames _⟩

end Parallel

end Game

end GridRobot
