import GridRobot.Text.Quoted

/-!
# Similar names

A name that is nearly another one is probably a slip. `Text.distance` counts the runes that have
to be put in, taken out or changed to turn one text into another, and `Text.suggestion` is the
part of a message that names the other one.
-/

namespace GridRobot

namespace Text

/-- The next row of the table of edit distances: `above` is the row before, from its second
entry on, `corner` its first entry, and `left` the entry to the left. -/
def distanceRow (r : Rune) (corner left : Nat) : List Rune → List Nat → List Nat
  | c :: cs, up :: above =>
    let here := min (min (up + 1) (left + 1)) (if c = r then corner else corner + 1)
    here :: distanceRow r up here cs above
  | _, _ => []

/-- How many runes have to be put in, taken out or changed to turn one text into the other. -/
def distance (s t : Text) : Nat :=
  let columns := t.runes
  let first := List.range (columns.length + 1)
  let last := s.runes.foldl (fun row r =>
    match row with
    | corner :: above => (corner + 1) :: distanceRow r corner (corner + 1) columns above
    | [] => []) first
  last.getLast?.getD 0

/-- The first name that is nearly the one given. -/
def similar? (given : Text) (names : List Text) : Option Text :=
  names.find? fun name => distance given name < 3

/-- The part of a message that suggests a name like the one given, if there is one. -/
def suggestion (given : Text) (names : List Text) : Text :=
  match similar? given names with
  | some name => ofString " Did you mean " ++ name.quoted ++ ofString "?"
  | none => []

end Text

end GridRobot
