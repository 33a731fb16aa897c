import GridRobot.Log.Line

/-!
# Loggers and their transcript

A logger writes the records that reach its level as lines. Beside that it may keep a transcript,
which takes every record at the ordinary level or above whatever the level of the output is. A
transcript entry says whether it is an error and to which session it belongs: the first attribute
of the record named `session` decides, and otherwise the last such attribute given to the logger.
-/

namespace GridRobot

namespace Log

/-- One entry of a transcript, for sessions named by `ι`. -/
structure Entry (ι : Type) where
  message : Text
  isError : Bool
  session : ι
  deriving DecidableEq, Repr, Inhabited

/-- The key of the attribute that names the session. -/
def sessionKey : Text :=
  Text.ofString "session"

/-- A value as a plain text without quotes. -/
def Value.bare : Value → Text
  | .text t => t
  | .number n => Text.ofInt n
  | .document form _ => form

/-- A logger: the level of its output, its format, and what it adds to records. -/
structure Logger where
  threshold : Int
  format : Format
  context : List Scope
  /-- The session last given to the logger. -/
  session : Text
  deriving DecidableEq, Repr, Inhabited

namespace Logger

/-- A logger for the level and format named by two words. -/
def new (level format : Text) : Logger :=
  ⟨readLevel level, .read format, [], []⟩

/-- The logger with attributes added to all its records. -/
def withAttrs (l : Logger) (attrs : List Attr) : Logger :=
  { l with
    context := l.context ++ attrs.map .attr
    session := attrs.foldl (fun s a => if a.key = sessionKey then a.value.bare else s) l.session }

/-- The logger with a group that holds what is added from now on; an empty name changes
nothing. -/
def withGroup (l : Logger) (name : Text) : Logger :=
  if name.isEmpty then l else { l with context := l.context ++ [.group name] }

/-- The line that a record gives, if it reaches the level of the output. -/
def line? (l : Logger) (r : Record) : Option Text :=
  if l.threshold ≤ r.level then some (l.format.line l.context r) else none

/-- The transcript entry that a record gives, if it is no mere detail. -/
def entry? (l : Logger) (r : Record) : Option (Entry Text) :=
  if infoLevel ≤ r.level then
    let given := r.attrs.find? fun a => a.key == sessionKey
    some
      { message := r.message
        isError := errorLevel ≤ r.level
        session := (given.map (·.value.bare)).getD l.session }
  else none

end Logger

/-- The record of a console message. -/
def consoleRecord (message : Text) (isError : Bool) : Record :=
  ⟨if isError then errorLevel else infoLevel, message, []⟩

/-- What can be done with a logger and its transcript. -/
inductive Op where
  | console (message : Text) (isError : Bool)
  | withAttrs (attrs : List Attr)
  | withGroup (name : Text)
  | record (r : Record)
  /-- Empties the transcript. -/
  | clear
  deriving DecidableEq, Repr, Inhabited

/-- A logger with the lines that it has written and its transcript. -/
structure Book where
  logger : Logger
  lines : List Text
  transcript : List (Entry Text)
  deriving DecidableEq, Repr, Inhabited

namespace Book

/-- The book of a new logger. -/
def new (level format : Text) : Book :=
  ⟨.new level format, [], []⟩

/-- The book after a record. -/
def write (b : Book) (r : Record) : Book :=
  { b with
    lines := b.lines ++ (b.logger.line? r).toList
    transcript := b.transcript ++ (b.logger.entry? r).toList }

/-- The book after one operation. -/
def step (b : Book) : Op → Book
  | .console message isError => b.write (consoleRecord message isError)
  | .withAttrs attrs => { b with logger := b.logger.withAttrs attrs }
  | .withGroup name => { b with logger := b.logger.withGroup name }
  | .record r => b.write r
  | .clear => { b with transcript := [] }

/-- The book after a sequence of operations. -/
def run (b : Book) (ops : List Op) : Book :=
  ops.foldl step b

end Book

end Log

end GridRobot
