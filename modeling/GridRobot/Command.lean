import GridRobot.Direction
import GridRobot.Env
import GridRobot.Text.Blank
import GridRobot.Text.Quoted

/-!
# Commands

A line of a script is a command: a keyword, in any letter case, followed by its arguments.
`Command.ofWords` reads one off the words of a line, and `CommandError` lists the ways in which
running it can fail, each with the message that the console shows.
-/

namespace GridRobot

/-- What the first word of a line asks for. -/
inductive Keyword where
  | unknown
  | var
  | move
  | help
  | list
  | start
  | cond
  deriving DecidableEq, Repr, Inhabited

namespace Keyword

/-- The keywords of the language. -/
def all : List Keyword :=
  [var, move, help, list, start, cond]

/-- The word for a keyword; an unknown word is none. -/
def word : Keyword → Text
  | unknown => []
  | var => Text.ofString "VAR"
  | move => Text.ofString "MOVER"
  | help => Text.ofString "AJUDA"
  | list => Text.ofString "MOSTRAR"
  | start => Text.ofString "INICIAR"
  | cond => Text.ofString "SE"

/-- The keyword that an upper-case word spells. -/
def ofWord (name : Text) : Keyword :=
  (all.find? fun k => k.word == name).getD unknown

end Keyword

/-- A line taken apart: the keyword, its word in upper case, and the words after it. -/
structure Command where
  keyword : Keyword
  name : Text
  args : List Text
  deriving DecidableEq, Repr, Inhabited

namespace Command

/-- The command that the words of a line make up. -/
def ofWords : List Text → Command
  | [] => ⟨.unknown, [], []⟩
  | word :: args =>
    let name := word.upper
    ⟨.ofWord name, name, args⟩

end Command

/-- The kinds of failure of a command. -/
inductive FailureKind where
  | badUsage
  | unknownCommand
  | undefinedVariable
  | unknownDirection
  | outOfBounds
  | collision
  | nestedTooDeep
  deriving DecidableEq, Repr, Inhabited

/-- How many conditions may hold on one line before the next is refused. -/
def maxNesting : Nat := 32

/-- Why a command failed. -/
inductive CommandError where
  /-- The command has the wrong number of arguments. -/
  | usage (keyword : Keyword)
  /-- The first word is no keyword. -/
  | unknownCommand
  /-- There is nothing of this name to list. -/
  | unknownList (what : Text)
  /-- There is nothing of this name to start. -/
  | unknownStart (what : Text)
  /-- There is no condition of this name. -/
  | unknownCondition (condition : Text)
  /-- A step count is neither a number nor a variable. -/
  | undefinedVariable (name : Text)
  | unknownDirection
  | outOfBounds
  | collision
  | nestedTooDeep
  deriving DecidableEq, Repr, Inhabited

namespace CommandError

/-- The kind of a failure. -/
def kind : CommandError → FailureKind
  | usage _ => .badUsage
  | unknownCommand | unknownList _ | unknownStart _ | unknownCondition _ => .unknownCommand
  | undefinedVariable _ => .undefinedVariable
  | unknownDirection => .unknownDirection
  | outOfBounds => .outOfBounds
  | collision => .collision
  | nestedTooDeep => .nestedTooDeep

/-- What the console shows for a failure. -/
def message : CommandError → Text
  | usage keyword => Text.ofString "Uso incorreto do comando " ++ keyword.word
  | unknownCommand => Text.ofString "Comando desconhecido"
  | unknownList what =>
    Text.ofString "Comando MOSTRAR " ++ what ++ Text.ofString " desconhecido."
  | unknownStart what =>
    Text.ofString "Comando INICIAR " ++ what ++ Text.ofString " desconhecido."
  | unknownCondition condition => Text.ofString "Condição desconhecida: " ++ condition
  | undefinedVariable name =>
    Text.ofString "Variável " ++ name.quoted ++ Text.ofString " não definida."
  | unknownDirection => Text.ofString "Direção desconhecida!"
  | outOfBounds => Text.ofString "Movimento fora do tabuleiro!"
  | collision => Text.ofString "Colidiu com um obstáculo no caminho!"
  | nestedTooDeep =>
    Text.ofString "Condições aninhadas demais (máximo " ++ Text.ofNat maxNesting ++
      Text.ofString ")"

end CommandError

end GridRobot
