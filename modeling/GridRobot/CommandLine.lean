import GridRobot.Duration
import GridRobot.Text.Case
import GridRobot.Text.Quoted

/-!
# The command line

The program takes flags and then one argument, the script. A flag is written with one or two
dashes; its value follows an equals sign or is the next argument, and a switch needs none. Two
dashes alone end the flags, and so does the first argument that is no flag.

`CommandLine.read` says what an argument list asks for, and `Request.output` what is written in
answer to one that is not to be carried out.
-/

namespace GridRobot

namespace CommandLine

/-! ## Flags -/

/-- The flags. -/
inductive Flag where
  | board
  | config
  | direct
  | logFormat
  | logLevel
  | render
  | tick
  deriving DecidableEq, Repr, Inhabited

namespace Flag

/-- All flags, in the order of their names. -/
def all : List Flag :=
  [board, config, direct, logFormat, logLevel, render, tick]

/-- The name of a flag. -/
def name : Flag → Text
  | board => Text.ofString "board"
  | config => Text.ofString "config"
  | direct => Text.ofString "direct"
  | logFormat => Text.ofString "log-format"
  | logLevel => Text.ofString "log-level"
  | render => Text.ofString "render"
  | tick => Text.ofString "tick"

/-- What kind of value a flag takes; a switch takes none. -/
def value? : Flag → Option Text
  | direct => none
  | render => none
  | tick => some (Text.ofString "duration")
  | _ => some (Text.ofString "string")

/-- What a flag is for. -/
def purpose : Flag → Text
  | board => Text.ofString "Path to a board file (overrides the random board)."
  | config => Text.ofString "Path to an HCL configuration file."
  | direct => Text.ofString "Run every line at once instead of one per tick."
  | logFormat => Text.ofString "Log output format: 'text' or 'json'."
  | logLevel => Text.ofString "Logging level: 'debug', 'info', 'warn', 'error'."
  | render => Text.ofString "Draw the board after every line."
  | tick => Text.ofString "Delay between script lines, e.g. 1s or 200ms."

/-- The flag with a name. -/
def ofName? (name : Text) : Option Flag :=
  all.find? fun f => f.name == name

/-- The two lines about a flag in the usage text. -/
def usage (f : Flag) : Text :=
  Text.ofString "  -" ++ f.name ++
    (match f.value? with
      | some kind => Text.ofString " " ++ kind
      | none => []) ++
    Text.ofString "\n    \t" ++ f.purpose ++ Text.ofString "\n"

end Flag

/-- The usage text. -/
def usage : Text :=
  Text.ofString ("\nrobogrid - drive a robot across a grid with a small command script.\n" ++
    "\nUsage:\n  robogrid [options] SCRIPT\n" ++
    "\nArguments:\n  SCRIPT\n    Text file with one command per line (VAR, MOVER, SE, AJUDA,\n" ++
    "    MOSTRAR OBSTACULOS, INICIAR TIMER).\n" ++
    "\nOptions:\n") ++ Flag.all.flatMap Flag.usage

/-! ## What can be asked for -/

/-- What the flags say. Empty texts and a zero tick leave the choice to the configuration. -/
structure Flags where
  config : Text
  board : Text
  logLevel : Text
  logFormat : Text
  tick : Duration
  render : Bool
  direct : Bool
  deriving DecidableEq, Repr, Inhabited

/-- The flags with the script. -/
structure Options extends Flags where
  script : Text
  deriving DecidableEq, Repr, Inhabited

/-- What is wrong with an argument list. -/
inductive UsageError where
  | malformed (argument : Text)
  | undefined (name : Text)
  | missingValue (flag : Flag)
  | badSwitch (value : Text) (flag : Flag)
  | badValue (value : Text) (flag : Flag)
  | severalScripts
  | badLogFormat
  | badLogLevel
  | negativeTick
  deriving DecidableEq, Repr, Inhabited

namespace UsageError

/-- The message for a usage error. -/
def message : UsageError → Text
  | malformed argument => Text.ofString "bad flag syntax: " ++ argument
  | undefined name => Text.ofString "flag provided but not defined: -" ++ name
  | missingValue flag => Text.ofString "flag needs an argument: -" ++ flag.name
  | badSwitch value flag =>
    Text.ofString "invalid boolean value " ++ value.quoted ++ Text.ofString " for -" ++ flag.name ++
      Text.ofString ": parse error"
  | badValue value flag =>
    Text.ofString "invalid value " ++ value.quoted ++ Text.ofString " for flag -" ++ flag.name ++
      Text.ofString ": parse error"
  | severalScripts => Text.ofString "expected a single SCRIPT argument"
  | badLogFormat => Text.ofString "invalid log-format: must be 'text' or 'json'"
  | badLogLevel => Text.ofString "invalid log-level: must be 'debug', 'info', 'warn', or 'error'"
  | negativeTick => Text.ofString "invalid tick: must not be negative"

/-- Whether an error is in the form of a flag. Only those are answered with the usage text. -/
def inFlag : UsageError → Bool
  | severalScripts => false
  | badLogFormat => false
  | badLogLevel => false
  | negativeTick => false
  | _ => true

end UsageError

/-- What an argument list asks for. -/
inductive Request where
  /-- To run a script. -/
  | run (options : Options)
  /-- To show the usage text; an empty list asks for that too. -/
  | help
  /-- Nothing that can be done. -/
  | refused (e : UsageError)
  deriving DecidableEq, Repr, Inhabited

/-- What is written in answer to a request before anything is run. -/
def Request.output : Request → Text
  | run _ => []
  | help => usage
  | refused e => if e.inFlag then e.message ++ Text.ofString "\n" ++ usage else []

/-! ## Reading flags -/

/-- The forms of an argument. -/
inductive Argument where
  /-- No flag. -/
  | plain
  /-- Two dashes alone. -/
  | separator
  | malformed
  | flag (name : Text) (value : Option Text)
  deriving DecidableEq, Repr, Inhabited

namespace Argument

/-- The name and value in a flag without its dashes. An equals sign divides them, though not as
the first byte. -/
def ofFlag : Text → Argument
  | [] => malformed
  | b :: t =>
    if b = 45 || b = 61 then malformed
    else
      let name := b :: t.takeWhile (· ≠ 61)
      match t.dropWhile (· ≠ 61) with
      | [] => flag name none
      | _ :: value => flag name (some value)

/-- The form of an argument. -/
def ofText : Text → Argument
  | [45, 45] => separator
  | 45 :: 45 :: t => ofFlag t
  | 45 :: b :: t => ofFlag (b :: t)
  | _ => plain

end Argument

/-- The value of a switch. -/
def readSwitch? (t : Text) : Option Bool :=
  if ["1", "t", "T", "TRUE", "true", "True"].any fun s => Text.ofString s = t then some true
  else if ["0", "f", "F", "FALSE", "false", "False"].any fun s => Text.ofString s = t then
    some false
  else none

/-- The flags with a switch set. -/
def Flags.setSwitch (fs : Flags) (f : Flag) (t : Text) : Except UsageError Flags :=
  match readSwitch? t with
  | none => .error (.badSwitch t f)
  | some b => .ok (if f = .direct then { fs with direct := b } else { fs with render := b })

/-- The flags with one of them set. -/
def Flags.set (fs : Flags) (t : Text) : Flag → Except UsageError Flags
  | .board => .ok { fs with board := t }
  | .config => .ok { fs with config := t }
  | .logFormat => .ok { fs with logFormat := t }
  | .logLevel => .ok { fs with logLevel := t }
  | .direct => fs.setSwitch .direct t
  | .render => fs.setSwitch .render t
  | .tick =>
    match Duration.read t with
    | .ok d => .ok { fs with tick := d }
    | .error _ => .error (.badValue t .tick)

/-- The flags before any argument. -/
def Flags.none : Flags :=
  ⟨[], [], [], [], .zero, false, false⟩

/-- What reading flags can end in other than flags; nothing stands for a call for help. -/
abbrev Stop := Option UsageError

/-- Whether a name asks for help. -/
def asksHelp (name : Text) : Bool :=
  name = Text.ofString "help" || name = Text.ofString "h"

/-- Reads flags up to the first argument that is none, and gives the arguments left over. -/
def readFlags (fs : Flags) : List Text → Except Stop (Flags × List Text)
  | [] => .ok (fs, [])
  | argument :: rest =>
    match Argument.ofText argument with
    | .plain => .ok (fs, argument :: rest)
    | .separator => .ok (fs, rest)
    | .malformed => .error (some (.malformed argument))
    | .flag name value =>
      match Flag.ofName? name with
      | Option.none => .error (if asksHelp name then Option.none else some (.undefined name))
      | some f =>
        match f.value?, value, rest with
        | some _, Option.none, [] => .error (some (.missingValue f))
        | some _, Option.none, t :: rest => do
          let fs ← (fs.set t f).mapError some
          readFlags fs rest
        | _, value, rest => do
          let fs ← (fs.set (value.getD (Text.ofString "true")) f).mapError some
          readFlags fs rest

/-! ## Reading a whole command line -/

/-- The names of log formats, and the empty text for none. -/
def logFormats : List Text :=
  ["", "text", "json"].map Text.ofString

/-- The names of log levels, and the empty text for none. -/
def logLevels : List Text :=
  ["", "debug", "info", "warn", "error"].map Text.ofString

/-- The flags with format and level in lower case, if they hold names of such. -/
def Flags.check (fs : Flags) : Except UsageError Flags :=
  let logFormat := fs.logFormat.lower
  let logLevel := fs.logLevel.lower
  if !logFormats.contains logFormat then .error .badLogFormat
  else if !logLevels.contains logLevel then .error .badLogLevel
  else if fs.tick.nanoseconds < 0 then .error .negativeTick
  else .ok { fs with logFormat, logLevel }

/-- What an argument list asks for. -/
def read (arguments : List Text) : Request :=
  match readFlags .none arguments with
  | .error Option.none => .help
  | .error (some e) => .refused e
  | .ok (_, []) => .help
  | .ok (_, _ :: _ :: _) => .refused .severalScripts
  | .ok (fs, [script]) =>
    match fs.check with
    | .error e => .refused e
    | .ok fs => .run { fs with script }

end CommandLine

end GridRobot
