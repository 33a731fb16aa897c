import GridRobot.Command
import GridRobot.Duration
import GridRobot.Session

/-!
# Games

A game is a session together with the scheduler that paces a script against it, if there is one.
This module runs command lines: `Game.interpret` runs one, and reports its failure to the console
once. The scheduler appears here only because a command can start it.
-/

namespace GridRobot

/-- The state of a paced script. -/
structure Scheduler where
  script : List Text
  /-- The time between two lines. -/
  tick : Duration
  /-- The step of the session clock. -/
  clock : Duration
  /-- How many lines of the current run have been taken. -/
  cursor : Nat
  running : Bool
  /-- The session clock. -/
  elapsed : Duration
  deriving DecidableEq, Repr, Inhabited

/-- A session with its scheduler. -/
structure Game where
  session : Session
  scheduler : Option Scheduler
  /-- The lines that runs have given to the interpreter, each with its failure if it had one. -/
  ran : List (Text × Option CommandError)

namespace Game

/-- The game of a session without a scheduler. -/
def ofSession (s : Session) : Game :=
  ⟨s, none, []⟩

/-- The game with an ordinary message reported. -/
def say (g : Game) (message : Text) : Game :=
  { g with session := g.session.say message }

/-! ## Starting the scheduler -/

/-- What is said when a run starts. -/
def startMessage : Text :=
  Text.ofString "Jogo iniciado!"

/-- Begins a run from the first line, unless one is in progress. -/
def start (g : Game) : Game :=
  match g.scheduler with
  | none => g
  | some s =>
    if s.running then
      { g with session := g.session.note (.debug (Text.ofString "scheduler already running") []) }
    else
      { g with scheduler := some { s with running := true, cursor := 0, elapsed := .zero } }.say
        startMessage

/-! ## Conditions -/

/-- Whether a condition holds. A condition of an unknown kind is a failure, which is not the same
as one that does not hold. -/
def evalCondition (g : Game) (condition expected : Text) : Except CommandError Bool × Game :=
  let condition := condition.upper
  let expected := expected.upper
  if condition = Text.ofString "OBSTACULO" then
    match Direction.read? expected with
    | none => (.ok false, g)
    | some d => (.ok (g.session.board.sense.has d), g)
  else if condition = Text.ofString "ROBO" then
    if expected = Text.ofString "META" then
      (.ok g.session.board.atTarget, { g with session := g.session.checkWin.2 })
    else (.ok false, g)
  else (.error (.unknownCondition condition), g)

/-! ## Commands -/

/-- What a command leaves behind: whether it failed, and the game after it. -/
abbrev Outcome := Except CommandError Unit × Game

/-- Sets a variable. -/
def execVar (g : Game) : List Text → Outcome
  | name :: word :: _ =>
    let value := g.session.env.evaluate word
    let s := { g.session with env := g.session.env.set name value }
    (.ok (), { g with session := s.say (Text.ofString "Variável " ++ name ++
      Text.ofString " definida com valor " ++ Text.ofInt64 value) })
  | _ => (.error (.usage .var), g)

/-- The steps that a word stands for: a literal, or a variable that must have been set. -/
def steps (g : Game) (word : Text) : Except CommandError Int64 :=
  match Text.readDecimal? word with
  | some n => .ok n
  | none =>
    match g.session.env.get? word with
    | some n => .ok n
    | none => .error (.undefinedVariable word)

/-- The failure that a blocked move is. -/
def failure : Blockage → CommandError
  | .outOfBounds => .outOfBounds
  | .collision => .collision

/-- Moves the robot and looks whether it has won. -/
def moveRobot (g : Game) (direction : Text) (n : Int64) : Outcome :=
  match Direction.read? direction with
  | none => (.error .unknownDirection, g)
  | some d =>
    match g.session.board.move d n with
    | .error e => (.error (failure e), g)
    | .ok board =>
      let s := { g.session with board }.say
        (Text.ofString "Movendo o robô para posição " ++ board.robot.text)
      (.ok (), { g with session := s.checkWin.2 })

/-- Moves the robot by a number of steps in a direction. -/
def execMove (g : Game) : List Text → Outcome
  | direction :: word :: _ =>
    match g.steps word with
    | .error e => (.error e, g)
    | .ok n => g.moveRobot direction n
  | _ => (.error (.usage .move), g)

/-- The line that divides the help text. -/
def helpRule : Text :=
  Text.ofString "-------------------------------------------------------------"

/-- The lines of the help text. -/
def helpText : List Text := [
  helpRule,
  Text.ofString ("Utilize as palavras chave * MOVER \x7bDIREÇÃO\x7d \x7bNÚMERO DE POSIÇÕES\x7d * " ++
    "para iniciar um comando de movimento"),
  Text.ofString "AS DIREÇÕES POSSÍVEIS SÃO:",
  Text.ofString ("CIMA, BAIXO, ESQUERDA, DIREITA, CIMA-ESQUERDA, CIMA-DIREITA, BAIXO-ESQUERDA, " ++
    "BAIXO-DIREITA"),
  helpRule,
  Text.ofString "Também é possível a criação de variáveis por meio do comando *VAR*:",
  Text.ofString "VAR \x7bNome da variável\x7d \x7bValor da variável\x7d, ex: VAR TESTE 5",
  helpRule,
  Text.ofString "Utilize a palavra-chave *SE* para criar condições, ex:",
  Text.ofString "SE OBSTACULO CIMA MOVER BAIXO 5",
  Text.ofString "SE ROBO META MOSTRAR OBSTACULOS",
  helpRule,
  Text.ofString ("Utilize o comando *MOSTRAR OBSTACULOS* para saber quais são as posições de cada " ++
    "obstáculo no tabuleiro"),
  Text.ofString "Utilize o comando *INICIAR TIMER* para executar o script carregado",
  helpRule]

/-- Shows the help text. -/
def execHelp (g : Game) : List Text → Outcome
  | [] => (.ok (), helpText.foldl say g)
  | _ => (.error (.usage .help), g)

/-- The lines that list obstacles, numbered from `first` on. -/
def obstacleLines : Nat → List Position → List Text
  | _, [] => []
  | first, p :: rest =>
    (Text.ofString "Obstáculo " ++ Text.ofNat first ++ Text.ofString ": " ++ p.text) ::
      obstacleLines (first + 1) rest

/-- Lists the obstacles on the board. -/
def execList (g : Game) : List Text → Outcome
  | what :: _ =>
    let what := what.upper
    if what ≠ Text.ofString "OBSTACULOS" then (.error (.unknownList what), g)
    else if g.session.board.obstacles.isEmpty then
      (.ok (), g.say (Text.ofString "Nenhum obstáculo encontrado no tabuleiro."))
    else
      (.ok (), (obstacleLines 1 g.session.board.obstacles).foldl say
        (g.say (Text.ofString "Posições dos obstáculos no tabuleiro:")))
  | [] => (.error (.usage .list), g)

/-- Starts the scheduler. -/
def execStart (g : Game) : List Text → Outcome
  | what :: _ =>
    let what := what.upper
    if what ≠ Text.ofString "TIMER" then (.error (.unknownStart what), g) else (.ok (), g.start)
  | [] => (.error (.usage .start), g)

/-- What is said of a condition that does not hold. -/
def unmetMessage (condition expected : Text) : Text :=
  Text.ofString "Condição " ++ (condition ++ 32 :: expected).quoted ++ Text.ofString " não atendida."

/-- What is said of a condition that holds, with the action that follows. -/
def metMessage (condition expected action : Text) : Text :=
  Text.ofString "Condição " ++ (condition ++ 32 :: expected).quoted ++
    Text.ofString " atendida. Executando: " ++ action

/-- Runs a line under at most `levels` nested conditions, itself counted as one. -/
def runLine : Nat → Text → Game → Outcome
  | 0, _, g => (.error .nestedTooDeep, g)
  | levels + 1, line, g =>
    let command := Command.ofWords line.words
    match command.keyword with
    | .var => g.execVar command.args
    | .move => g.execMove command.args
    | .help => g.execHelp command.args
    | .list => g.execList command.args
    | .start => g.execStart command.args
    | .unknown => (.error .unknownCommand, g)
    | .cond =>
      match command.args with
      | condition :: expected :: word :: rest =>
        let condition := condition.upper
        let expected := expected.upper
        let action := Text.join [32] (word :: rest)
        match g.evalCondition condition expected with
        | (.error e, g) => (.error e, g)
        | (.ok false, g) => (.ok (), g.say (unmetMessage condition expected))
        | (.ok true, g) => runLine levels action (g.say (metMessage condition expected action))
      | _ => (.error (.usage .cond), g)

/-- Runs one line. A failure is reported to the console once and then given back. -/
def interpret (g : Game) (line : Text) : Outcome :=
  match runLine (maxNesting + 1) line g with
  | (.ok (), g) => (.ok (), g)
  | (.error e, g) => (.error e, { g with session := g.session.log e.message true })

end Game

end GridRobot
