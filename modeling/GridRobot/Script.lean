import GridRobot.Game

/-!
# Scripts

A script is a text with one command to a line. Loading it drops white space around the lines and
the lines that are then empty; a line of 65536 bytes or more makes the whole script unreadable.
A script can be run directly, line after line, until it ends or the robot has won.
-/

namespace GridRobot

namespace Script

/-- The length from which on a line is too long. -/
def maxLine : Nat := 65536

/-- What is said of a script with a line that is too long. -/
def tooLongMessage : Text :=
  Text.ofString "read script: bufio.Scanner: token too long"

/-- The lines of a script, or nothing if one of them is too long. -/
def load? (t : Text) : Option (List Text) :=
  let segments := t.splitWhere (· == 10)
  if segments.any fun s => maxLine ≤ s.length then none
  else some ((segments.map Text.trim).filter fun s => !s.isEmpty)

end Script

namespace Game

/-- Gives a line to the interpreter and keeps a record of it. -/
def hand (g : Game) (line : Text) : Outcome :=
  match g.interpret line with
  | (.ok (), g) => (.ok (), { g with ran := g.ran ++ [(line, none)] })
  | (.error e, g) => (.error e, { g with ran := g.ran ++ [(line, some e)] })

/-- Runs lines at once, without pacing, until the session is won. Blank lines are passed over.
Gives the number of lines that failed. -/
def runDirect (g : Game) : List Text → Nat × Game
  | [] => (0, g)
  | line :: rest =>
    if g.session.won then (0, g)
    else
      let line := line.trim
      if line.isEmpty then g.runDirect rest
      else
        match g.hand line with
        | (.ok (), g) => g.runDirect rest
        | (.error _, g) =>
          let (failed, g) := g.runDirect rest
          (failed + 1, g)

end Game

end GridRobot
