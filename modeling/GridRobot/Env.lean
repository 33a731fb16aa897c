import GridRobot.Geometry
import GridRobot.Text.Integer

/-!
# Variables

The variables of a script have a 64-bit value each. `Env` keeps them in the order of their
names, byte by byte, which is the order in which they are shown; `Env.set` keeps that order and
one entry for each name.
-/

namespace GridRobot

/-- The variables that a script has set, in the order of their names. -/
structure Env where
  entries : List (Text × Int64)
  deriving DecidableEq, Repr, Inhabited

namespace Env

/-- No variables. -/
def empty : Env :=
  ⟨[]⟩

/-- The value of a variable, if it was set. -/
def get? (env : Env) (name : Text) : Option Int64 :=
  env.entries.lookup name

/-- Puts a name with its value in its place among ordered entries. -/
def insertEntry (name : Text) (value : Int64) : List (Text × Int64) → List (Text × Int64)
  | [] => [(name, value)]
  | (other, kept) :: rest =>
    if name = other then (name, value) :: rest
    else if name < other then (name, value) :: (other, kept) :: rest
    else (other, kept) :: insertEntry name value rest

/-- The variables after one of them is given a value. -/
def set (env : Env) (name : Text) (value : Int64) : Env :=
  ⟨insertEntry name value env.entries⟩

/-- How many variables there are. -/
def size (env : Env) : Nat :=
  env.entries.length

/-- The variables as they are shown, `map[name:value …]`. -/
def text (env : Env) : Text :=
  Text.ofString "map[" ++
    Text.join [32] (env.entries.map fun (name, value) =>
      name ++ Text.ofString ":" ++ Text.ofInt64 value) ++
    Text.ofString "]"

/-- The value of a word: a decimal literal, otherwise the variable of that name, otherwise
zero. -/
def evaluate (env : Env) (word : Text) : Int64 :=
  match Text.readDecimal? word with
  | some n => n
  | none => (env.get? word).getD 0

end Env

end GridRobot
