import GridRobot.Board.Movement
import GridRobot.Env
import GridRobot.Log.Logger
import GridRobot.Setup

/-!
# Sessions

A session is the state that a script runs against: the board, the variables, whether the robot
has won, and the journal of everything that was logged. Sessions are numbered in the order of
their creation. A reset consults the setup again; if a board can be built, a new session begins
with it, and otherwise the old one goes on as if nothing had happened.

Reaching the target counts once per session. What happens then is the session's win policy.
-/

namespace GridRobot

/-- What was logged: a console message of a session, or a detail for those who look for a
fault. -/
inductive Note where
  | console (session : Nat) (message : Text) (isError : Bool)
  | debug (message : Text) (attrs : List Log.Attr)
  deriving DecidableEq, Repr, Inhabited

namespace Note

/-- The transcript entry of a note; details have none. -/
def entry? : Note → Option (Log.Entry Nat)
  | console session message isError => some ⟨message, isError, session⟩
  | debug _ _ => none

/-- The record of a note, with the session under its name. -/
def record (sessionName : Nat → Text) : Note → Log.Record
  | console session message isError =>
    { Log.consoleRecord message isError with
      attrs := [⟨Log.sessionKey, .text (sessionName session)⟩] }
  | debug message attrs => ⟨Log.debugLevel, message, attrs⟩

end Note

/-- What happens when the robot reaches the target, as those who start the session want it. -/
inductive WinPolicy where
  /-- The session goes on as it is. -/
  | inert
  /-- The session is reset, and nothing is made of a reset that fails. -/
  | quietReset
  /-- The session is reset, and a reset that fails is reported to the console. The report is part of
  this policy: a reset says nothing of its own failure. -/
  | reset
  deriving DecidableEq, Repr, Inhabited

/-- The state that a script runs against. -/
structure Session where
  setup : Setup
  /-- How often the setup has been consulted. -/
  consulted : Nat
  onWin : WinPolicy
  /-- The number of the current session. -/
  number : Nat
  board : Board
  env : Env
  /-- Whether the target has been reached in this session. -/
  won : Bool
  /-- Where the robot stood at each win. -/
  wins : List Position
  journal : List Note

namespace Session

/-! ## Building -/

/-- The board that a setup gives at a consultation. -/
def boardAt (setup : Setup) (n : Nat) : Except SetupError Board :=
  match setup n with
  | .ok l => (Board.ofLayout l).mapError .board
  | .error e => .error e

/-- The message for a session that cannot be built. -/
def buildMessage (e : SetupError) : Text :=
  Text.ofString "board setup: " ++ e.message

/-- The first session of a setup. -/
def start (setup : Setup) (onWin : WinPolicy) : Except SetupError Session :=
  (boardAt setup 0).map fun board =>
    { setup, onWin, board
      consulted := 1
      number := 1
      env := .empty
      won := false
      wins := []
      journal := [] }

/-- Consults the setup and begins a new session with its board. -/
def rebuild (s : Session) : Except SetupError Unit × Session :=
  let s' := { s with consulted := s.consulted + 1 }
  match boardAt s.setup s.consulted with
  | .ok board => (.ok (), { s' with board, number := s.number + 1, won := false })
  | .error e => (.error e, s')

/-! ## Logging -/

/-- The session with a note added to its journal. -/
def note (s : Session) (n : Note) : Session :=
  { s with journal := s.journal ++ [n] }

/-- Reports a message to the console. -/
def log (s : Session) (message : Text) (isError : Bool) : Session :=
  s.note (.console s.number message isError)

/-- Reports an ordinary message to the console. -/
def say (s : Session) (message : Text) : Session :=
  s.log message false

/-- The transcript: the console messages so far. -/
def transcript (s : Session) : List (Log.Entry Nat) :=
  s.journal.filterMap Note.entry?

/-! ## Resetting and winning -/

/-- What a reset says once it is done. -/
def resetMessage : Text :=
  Text.ofString "Jogo reiniciado. Carregue um script ou configure o jogo."

/-- Begins a new session on a new board without variables. -/
def reset (s : Session) : Except SetupError Unit × Session :=
  match s.rebuild with
  | (.ok (), s) => (.ok (), { s with env := .empty }.say resetMessage)
  | (.error e, s) => (.error e, s)

/-- What the policy for wins makes of a session. -/
def heed (s : Session) : Session :=
  match s.onWin with
  | .inert => s
  | .quietReset => s.reset.2
  | .reset =>
    match s.reset with
    | (.ok (), s) => s
    | (.error e, s) => s.log (Text.ofString "reset: " ++ buildMessage e) true

/-- Records a win and acts on it. -/
def celebrate (s : Session) : Session :=
  { s with wins := s.wins ++ [s.board.robot] }.heed

/-- What is said when the robot reaches the target. -/
def winMessage : Text :=
  Text.ofString "Chegou ao destino"

/-- Tells whether the robot stands on the target, and lets it win if it has not yet done so in
this session. -/
def checkWin (s : Session) : Bool × Session :=
  if !s.board.atTarget then (false, s)
  else if s.won then (true, s)
  else (true, ({ s with won := true }.say winMessage).celebrate)

end Session

end GridRobot
