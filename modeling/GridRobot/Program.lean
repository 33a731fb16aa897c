import GridRobot.Board.Picture
import GridRobot.BoardFile.Layout
import GridRobot.Config.Settings
import GridRobot.Files
import GridRobot.Random.Generator
import GridRobot.Scheduler

/-!
# The program

`Program.run` says what the program does with its arguments: what it writes, what it logs, how
long it waits in between, and how it ends. It depends on the world around it only through the
files, a seed from the clock, names for sessions, and whether somebody interrupts it.

The arguments and the configuration are read first; a fault there ends the program with code 2,
and any later one with code 1.
-/

namespace GridRobot

namespace Program

/-- The world around the program. -/
structure World where
  files : Files
  /-- The seed of random boards where the settings leave it to the clock. -/
  seed : UInt64
  /-- The names of sessions by their number. -/
  sessionName : Nat → Text
  /-- What breaks a paced run off before its first line, if anything does. -/
  interruption : Option Interruption
  /-- How often the session clock of a paced run ticks before the first step, the second and so
  on. -/
  clockTicks : Scheduler → Nat → Nat := RunEvent.punctual

/-- Why the program fails. -/
inductive Failure where
  | usage (e : CommandLine.UsageError)
  | settings (file : Text) (e : FileError)
  | cannotOpen (path : Text) (e : OpenError)
  /-- The board file is a directory. -/
  | boardDirectory (path : Text)
  | boardFile (file : Text) (e : BoardFile.Fault)
  | session (e : SetupError)
  /-- The script is a directory. -/
  | scriptDirectory (path : Text)
  | scriptTooLong
  | interrupted (why : Interruption)

namespace Failure

/-- The message for a path that is a directory. -/
def isDirectory (path : Text) : Text :=
  Text.ofString "read " ++ path ++ Text.ofString ": is a directory"

/-- The message for a failure. -/
def message : Failure → Text
  | usage e => e.message
  | settings file e => e.message file
  | cannotOpen path e => Text.ofString "open " ++ path ++ Text.ofString ": " ++ e.reason
  | boardDirectory path => Text.ofString "load board: " ++ isDirectory path
  | boardFile file e => Text.ofString "load board: " ++ e.message file
  | session e => Session.buildMessage e
  | scriptDirectory path => Text.ofString "read script: " ++ isDirectory path
  | scriptTooLong => Script.tooLongMessage
  | interrupted why => why.message

/-- The code that the program ends with. -/
def code : Failure → Nat
  | usage _ => 2
  | settings _ _ => 2
  | _ => 1

end Failure

/-- What the program does. -/
inductive Action where
  | print (t : Text)
  | log (line : Text)
  | pause (d : Duration)
  deriving DecidableEq, Repr, Inhabited

/-- What the program does, and how it fails if it does. -/
structure Report where
  actions : List Action
  failure : Option Failure

namespace Report

/-- Everything that is printed. -/
def output (r : Report) : Text :=
  r.actions.flatMap fun
    | .print t => t
    | _ => []

/-- The lines that are logged. -/
def logLines (r : Report) : List Text :=
  r.actions.filterMap fun
    | .log line => some line
    | _ => none

/-- The code that the program ends with. -/
def code (r : Report) : Nat :=
  (r.failure.map Failure.code).getD 0

end Report

/-! ## Settings and board -/

/-- The settings that a configuration file gives, if one is named. -/
def fileSettings (files : Files) (file : Text) : Except Failure Settings :=
  if file.isEmpty then .ok Settings.default
  else
    match files file with
    | .ok (.file t) => (Settings.ofFile t).mapError (.settings file)
    | _ => .error (.settings file .unreadable)

/-- The settings for the options. -/
def settings (files : Files) (o : CommandLine.Options) : Except Failure Settings := do
  let s ← fileSettings files o.config
  ((s.override o.toFlags).check).mapError (.settings o.config)

/-- The layout in a board file. -/
def layout (files : Files) (path : Text) : Except Failure Layout :=
  match files path with
  | .error e => .error (.cannotOpen path e)
  | .ok .directory => .error (.boardDirectory path)
  | .ok (.file t) => (BoardFile.read t).mapError (.boardFile path)

/-- The plan for random boards in the settings. -/
def plan (s : Settings) : RandomPlan :=
  ⟨s.boardSize, s.obstacles, s.robot, s.target, s.solvable⟩

/-- The setup that the settings ask for. -/
def setup (w : World) (s : Settings) : Except Failure Setup :=
  if s.layout.isEmpty then
    let seed := if s.seed = 0 then w.seed else s.seed
    .ok (.random (plan s) (Generator.ofSeeds seed seed))
  else (layout w.files s.layout).map .fixed

/-- The lines of the script. -/
def script (files : Files) (path : Text) : Except Failure (List Text) :=
  match files path with
  | .error e => .error (.cannotOpen path e)
  | .ok .directory => .error (.scriptDirectory path)
  | .ok (.file t) =>
    match Script.load? t with
    | some lines => .ok lines
    | none => .error .scriptTooLong

/-! ## Logging -/

/-- The actions that log records. -/
def logAll (logger : Log.Logger) (rs : List Log.Record) : List Action :=
  rs.filterMap fun r => (logger.line? r).map .log

/-- The record of the settings. -/
def settingsRecord (s : Settings) : Log.Record :=
  ⟨Log.debugLevel, Text.ofString "configuration loaded",
    [⟨Text.ofString "config", .document s.plain s.json⟩]⟩

/-- The record of the end of a direct run. -/
def directRecord (lines failed : Nat) : Log.Record :=
  ⟨Log.debugLevel, Text.ofString "direct run finished",
    [⟨Text.ofString "lines", .number lines⟩, ⟨Text.ofString "failed", .number failed⟩]⟩

/-- What is printed for a win. -/
def winLine (p : Position) : Text :=
  Text.ofString "Chegou ao destino em " ++ p.text ++ Text.ofString "\n"

/-- What is printed at the end. -/
def lastLine (p : Position) : Text :=
  Text.ofString "Robot final position: " ++ p.text ++ Text.ofString "\n"

/-! ## Running -/

/-- What a game has reported up to some moment: how many notes and how many wins, and how the
board looks. -/
structure Frame where
  notes : Nat
  wins : Nat
  picture : Text

/-- The frame of a game. -/
def frame (g : Game) : Frame :=
  ⟨g.session.journal.length, g.session.wins.length, g.session.board.picture g.elapsed⟩

/-- The log lines and win lines of a session between two frames. -/
def between (w : World) (logger : Log.Logger) (s : Session) (a b : Frame) : List Action :=
  logAll logger (((s.journal.take b.notes).drop a.notes).map (Note.record w.sessionName)) ++
    ((s.wins.take b.wins).drop a.wins).map fun p => .print (winLine p)

/-- The actions of a paced run: before each frame a pause, and after it the picture of the board
if that is asked for. -/
def paced (w : World) (logger : Log.Logger) (render : Bool) (tick : Duration) (s : Session)
    (last : Frame) : List Frame → List Action
  | [] => []
  | f :: fs =>
    (.pause tick :: between w logger s last f) ++ (if render then [.print f.picture] else []) ++
      paced w logger render tick s f fs

/-- A direct run of a script. -/
def direct (w : World) (logger : Log.Logger) (g : Game) (lines : List Text) : Report :=
  let first := frame g
  let (failed, g') := g.runDirect lines
  ⟨between w logger g'.session first (frame g') ++
      logAll logger [directRecord lines.length failed] ++ [.print (lastLine g'.session.board.robot)],
    none⟩

/-- The events of a paced run. -/
def events (w : World) (s : Scheduler) : List RunEvent :=
  match w.interruption with
  | some why => [.interrupt why]
  | none => RunEvent.upTo (w.clockTicks s) (s.script.length + 1)

/-- A paced run of a script. -/
def schedule (w : World) (logger : Log.Logger) (render : Bool) (g : Game) (s : Scheduler) :
    Report :=
  let first := frame g
  let started := frame (g.attach s).start
  let (ending, frames, g') := (g.attach s).run frame (events w s)
  let last := frames.getLastD started
  let actions := between w logger g'.session first started ++
    paced w logger render s.tick g'.session started frames ++
    (if g'.running || ending != .finished || g'.session.won then [] else [.pause s.tick]) ++
    between w logger g'.session last (frame g')
  match ending with
  | .interrupted .deadlineExceeded => ⟨actions, some (.interrupted .deadlineExceeded)⟩
  | _ => ⟨actions ++ [.print (lastLine g'.session.board.robot)], none⟩

/-- What is said once the script is loaded. -/
def loadedMessage : Text :=
  Text.ofString "Script carregado com sucesso."

/-- Runs a script on a session. -/
def play (w : World) (logger : Log.Logger) (o : CommandLine.Options) (tick : Duration)
    (session : Session) (lines : List Text) : Report :=
  let g := Game.ofSession (session.say loadedMessage)
  let loaded := between w logger g.session (frame (.ofSession session)) (frame g)
  let r := if o.direct then direct w logger g lines
    else schedule w logger o.render g (.new lines tick .second)
  { r with actions := loaded ++ r.actions }

/-- Builds a session and runs the script on it. -/
def start (w : World) (logger : Log.Logger) (o : CommandLine.Options) (s : Settings) :
    Except Failure Report := do
  let setup ← setup w s
  let session ← (Session.start setup .inert).mapError .session
  let lines ← script w.files o.script
  return play w logger o s.tick session lines

/-- Does what the options ask for. -/
def runOptions (w : World) (o : CommandLine.Options) : Report :=
  match settings w.files o with
  | .error e => ⟨[], some e⟩
  | .ok s =>
    let logger := Log.Logger.new s.logLevel s.logFormat
    let loaded := logAll logger [settingsRecord s]
    match start w logger o s with
    | .error e => ⟨loaded, some e⟩
    | .ok r => { r with actions := loaded ++ r.actions }

/-- What the program does with its arguments. -/
def run (w : World) (arguments : List Text) : Report :=
  let request := CommandLine.read arguments
  let printed := if request.output.isEmpty then [] else [.print request.output]
  match request with
  | .help => ⟨printed, none⟩
  | .refused e => ⟨printed, some (.usage e)⟩
  | .run o => runOptions w o

/-! ## What the world has to provide -/

/-- A name for a session from sixteen random bytes, in the usual form of such names. -/
def nameOf (bytes : List UInt8) : Text :=
  let digits := (bytes.mapIdx fun i b =>
    Text.hex 2 (if i = 6 then b.toNat % 16 + 64 else if i = 8 then b.toNat % 64 + 128 else b.toNat))
  let part := fun (first count : Nat) => ((digits.drop first).take count).flatten
  Text.join [45] [part 0 4, part 4 2, part 6 2, part 8 2, part 10 6]

/-- The files that the program opens, in order, as far as the known ones tell. -/
def paths (files : Files) (arguments : List Text) : List Text :=
  match CommandLine.read arguments with
  | .run o =>
    let config := if o.config.isEmpty then [] else [o.config]
    match settings files o with
    | .error _ => config
    | .ok s => config ++ (if s.layout.isEmpty then [] else [s.layout]) ++ [o.script]
  | _ => []

end Program

end GridRobot
