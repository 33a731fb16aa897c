import GridRobot.Text.Case
import GridRobot.Text.Quoted

/-!
# Log records

A log record has a level, a message and attributes. Levels are numbers; four of them have names,
and a level between two of them is written by its distance from the lower one. An attribute's
value is a text, a number, or a document that comes with both of its written forms.
-/

namespace GridRobot

namespace Log

/-! ## Levels -/

/-- The level of details for those who look for a fault. -/
def debugLevel : Int := -4

/-- The level of ordinary messages. -/
def infoLevel : Int := 0

/-- The level of warnings. -/
def warnLevel : Int := 4

/-- The level of errors. -/
def errorLevel : Int := 8

/-- A named level, or a level a distance away from one. -/
def levelFrom (name : String) (distance : Int) : Text :=
  Text.ofString name ++
    (if distance = 0 then []
     else if distance < 0 then Text.ofInt distance
     else 43 :: Text.ofInt distance)

/-- How a level is written. -/
def levelText (level : Int) : Text :=
  if level < infoLevel then levelFrom "DEBUG" (level - debugLevel)
  else if level < warnLevel then levelFrom "INFO" level
  else if level < errorLevel then levelFrom "WARN" (level - warnLevel)
  else levelFrom "ERROR" (level - errorLevel)

/-- The level that a word names, in any letter case; other words stand for the ordinary level. -/
def readLevel (word : Text) : Int :=
  let word := word.lower
  if word = Text.ofString "debug" then debugLevel
  else if word = Text.ofString "warn" then warnLevel
  else if word = Text.ofString "error" then errorLevel
  else infoLevel

/-! ## Records -/

/-- The value of an attribute. -/
inductive Value where
  | text (t : Text)
  | number (n : Int)
  /-- A value given by its plain form and its JSON form. -/
  | document (plain json : Text)
  deriving DecidableEq, Repr, Inhabited

/-- A named value. -/
structure Attr where
  key : Text
  value : Value
  deriving DecidableEq, Repr, Inhabited

/-- What is to be logged. -/
structure Record where
  level : Int
  message : Text
  attrs : List Attr
  deriving DecidableEq, Repr, Inhabited

/-- What a logger adds to its records: attributes, and groups that hold all that follows. -/
inductive Scope where
  | attr (a : Attr)
  | group (name : Text)
  deriving DecidableEq, Repr, Inhabited

end Log

end GridRobot
