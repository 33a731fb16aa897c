import GridRobot.Script

/-!
# Paced runs

The scheduler gives one line of its script to the interpreter at each tick. A run ends when the
script is used up, when the session is won, or when it is stopped. `Game.run` services a sequence
of events: steps, ticks of the session clock, and interruptions. `RunEvent.upTo` lists the
events that two tickers bring about, in whatever order they come.
-/

namespace GridRobot

namespace Scheduler

/-- A scheduler for a script. A tick that is not positive stands for a second, a clock that is
not positive for the tick. -/
def new (script : List Text) (tick clock : Duration) : Scheduler :=
  let tick := if tick.nanoseconds ≤ 0 then .second else tick
  { script, tick
    clock := if clock.nanoseconds ≤ 0 then tick else clock
    cursor := 0
    running := false
    elapsed := .zero }

end Scheduler

namespace Game

/-- The game with a scheduler attached. -/
def attach (g : Game) (s : Scheduler) : Game :=
  { g with scheduler := some s }

/-- Whether a run is in progress. -/
def running (g : Game) : Bool :=
  g.scheduler.any (·.running)

/-- The session clock; without a scheduler it stands still. -/
def elapsed (g : Game) : Duration :=
  (g.scheduler.map (·.elapsed)).getD .zero

/-- Ends the run. -/
def stop (g : Game) : Game :=
  { g with scheduler := g.scheduler.map ({ · with running := false }) }

/-- The game with its run in progress. -/
def resume (g : Game) : Game :=
  { g with scheduler := g.scheduler.map ({ · with running := true }) }

/-- Ends the run, goes back to the start of the script, and resets the session. -/
def resetRun (g : Game) : Except SetupError Unit × Game :=
  let scheduler := g.scheduler.map ({ · with running := false, cursor := 0, elapsed := .zero })
  let (outcome, session) := g.session.reset
  (outcome, { g with session, scheduler })

/-- What is said when the script is used up. -/
def doneMessage : Text :=
  Text.ofString "Todos os comandos foram executados."

/-- The detail that is noted for a failed line. -/
def failedLine (number : Nat) (e : CommandError) : Note :=
  .debug (Text.ofString "line failed")
    [⟨Text.ofString "line", .number number⟩, ⟨Text.ofString "err", .text e.message⟩]

/-- Gives the line at the cursor to the interpreter, and ends the run if the session is won. -/
def takeLine (g : Game) (s : Scheduler) (line : Text) : Game :=
  let g := { g with scheduler := some { s with cursor := s.cursor + 1 } }
  let g := match g.hand line.trim with
    | (.ok (), g) => g
    | (.error e, g) => { g with session := g.session.note (failedLine (s.cursor + 1) e) }
  if g.session.won then g.stop else g

/-- What one tick did. -/
inductive Tick where
  /-- No run was in progress. -/
  | idle
  /-- The script was used up, and the run has ended. -/
  | done
  /-- A line was interpreted; tells whether the run goes on. -/
  | line (goesOn : Bool)
  deriving DecidableEq, Repr, Inhabited

/-- Whether the run goes on after a tick. -/
def Tick.goesOn : Tick → Bool
  | idle => false
  | done => false
  | line b => b

/-- Performs one tick of the run in progress. -/
def step (g : Game) : Tick × Game :=
  match g.scheduler with
  | none => (.idle, g)
  | some s =>
    if !s.running then (.idle, g)
    else
      match s.script[s.cursor]? with
      | none => (.done, { g with scheduler := some { s with running := false } }.say doneMessage)
      | some line =>
        let g := g.takeLine s line
        (.line g.running, g)

/-- Advances the session clock. -/
def advanceClock (g : Game) : Game :=
  { g with scheduler := g.scheduler.map fun s =>
      { s with elapsed := ⟨s.elapsed.nanoseconds + s.clock.nanoseconds⟩ } }

end Game

/-- Why a run is broken off from outside. -/
inductive Interruption where
  | cancelled
  | deadlineExceeded
  deriving DecidableEq, Repr, Inhabited

/-- The message for a run that was broken off. -/
def Interruption.message : Interruption → Text
  | cancelled => Text.ofString "context canceled"
  | deadlineExceeded => Text.ofString "context deadline exceeded"

/-- What a run may have to service. -/
inductive RunEvent where
  | clock
  | step
  | interrupt (why : Interruption)
  deriving DecidableEq, Repr, Inhabited

/-- How the servicing of events ended. -/
inductive RunEnd where
  /-- By a step after which the run does not go on. -/
  | finished
  /-- By an interruption. -/
  | interrupted (why : Interruption)
  /-- There were no more events. -/
  | pending
  deriving DecidableEq, Repr, Inhabited

namespace Game

variable {α : Type}

/-- Services events until the run ends. After each interpreted line `look` reads the game, before
a win ends the run, and what it has read is given back in order. -/
def service (look : Game → α) (g : Game) : List RunEvent → RunEnd × List α × Game
  | [] => (.pending, [], g)
  | .interrupt why :: _ => (.interrupted why, [], g.stop)
  | .clock :: rest => g.advanceClock.service look rest
  | .step :: rest =>
    match g.step with
    | (.idle, g) => (.finished, [], g)
    | (.done, g) => (.finished, [], g)
    | (.line false, g) => (.finished, [look g.resume], g)
    | (.line true, g) =>
      let (ending, seen, g') := g.service look rest
      (ending, look g.resume :: seen, g')

/-- Starts a run and services events. -/
def run (look : Game → α) (g : Game) (events : List RunEvent) : RunEnd × List α × Game :=
  g.start.service look events

end Game

namespace RunEvent

/-- The events between the start of a run and its `steps`-th step, where the session clock ticks
`ticks k` times between the steps `k` and `k + 1`. -/
def upTo (ticks : Nat → Nat) (steps : Nat) : List RunEvent :=
  (List.range steps).flatMap fun k => List.replicate (ticks k) RunEvent.clock ++ [.step]

/-- How often the session clock ticks between two steps of a scheduler if no tick is late. -/
def punctual (s : Scheduler) (k : Nat) : Nat :=
  let tick := s.tick.nanoseconds.toNatClampNeg
  let clock := s.clock.nanoseconds.toNatClampNeg
  (k + 1) * tick / clock - k * tick / clock

/-- The events that let a scheduler come to the end of its script if no tick is late. -/
def enough (s : Scheduler) : List RunEvent :=
  upTo (punctual s) (s.script.length + 1)

end RunEvent

end GridRobot
