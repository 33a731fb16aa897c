import GridRobot.Config.Value
import GridRobot.Text.Case

/-!
# Conversion

Where a value of another type is wanted, a value is converted if there is a natural way: numbers
and truth values to strings, strings to the numbers and truth values they spell, and tuples,
objects, lists and maps element by element. Where there is none, `Value.convert` says why.

Null stays null and what is unknown stays unknown, but they take the wanted type. The elements of a
list or map must have one type in the end.
-/

namespace GridRobot

namespace Config

namespace Value

/-! ## Simple values -/

/-- The truth value that a text spells. -/
def readBool (t : Text) : Except Text Value :=
  if t = Text.ofString "true" || t = Text.ofString "1" then .ok (bool true)
  else if t = Text.ofString "false" || t = Text.ofString "0" then .ok (bool false)
  else
    let hint := fun (word : String) => Text.ofString
      ("a bool is required; to convert from string, use lowercase \"" ++ word ++ "\"")
    if t.lower = Text.ofString "true" then .error (hint "true")
    else if t.lower = Text.ofString "false" then .error (hint "false")
    else .error (Text.ofString "a bool is required")

/-- The number that a text spells. -/
def readNumber (t : Text) : Except Text Value :=
  match Number.read? t with
  | some n => .ok (number n)
  | none => .error (Text.ofString "a number is required")

/-- An unknown value of type `s` converted to another type. A list or map has as many elements as
what it is made of. -/
def castUnknown (s : ValueType) (l : Limits) (t : ValueType) : Value :=
  let t := t.filledFrom s
  match s, t with
  | .object names _, .map _ => limited t (.ofLength l.present names.length)
  | .tuple ts, .list _ => limited t (.ofLength l.present ts.length)
  | .list _, .list _ => limited t { Limits.ofPresent l.present with least := l.least, most := l.most }
  | .map _, .map _ => limited t { Limits.ofPresent l.present with least := l.least, most := l.most }
  | _, t => vague t l.present

/-! ## Lists and maps -/

/-- The type that the elements of a list or map are to have, where they are made out of values and
`t` is wanted. -/
def wantedElement (vs : List Value) : ValueType → ValueType
  | .dynamic => (ValueType.common? (types vs)).getD .dynamic
  | t => t

/-- Elements converted to the type that they have in common, where it is `t` or part of it that is
wanted. A conversion of the elements of one type may leave parts of it open. -/
def alike (cast : Value → ValueType → Except Text Value) (t : ValueType) (vs : List Value) :
    Except Text (List Value) :=
  if t.isList || t.isMap || t.isObject then
    match ValueType.common? (types vs) with
    | some u => vs.mapM fun v => cast v u
    | none => .error (Text.ofString "cannot find a common base type for all elements")
  else .ok vs

/-- The list or map that was made, unless its elements have different types. -/
def uniform (what whole : String) : Option Value → Except Text Value
  | some v => .ok v
  | none => .error (Text.ofString
      (what ++ " types must all match for conversion to " ++ whole))

/-- The list made out of elements that are converted to a type. -/
def castList (cast : Value → ValueType → Except Text Value) (t : ValueType) (vs : List Value) :
    Except Text Value :=
  if vs.isEmpty then .ok (list t [])
  else do
    let t := wantedElement vs t
    let vs ← vs.mapM fun v => cast v t
    let vs ← alike cast t vs
    uniform "element" "list" (listOf? vs)

/-- The map made out of members, called `what`, that are converted to a type. -/
def castMap (cast : Value → ValueType → Except Text Value) (what : String) (t : ValueType)
    (keys : List Text) (vs : List Value) : Except Text Value :=
  if vs.isEmpty then .ok (map t keys [])
  else do
    let t := wantedElement vs t
    let vs ← vs.mapM fun v => cast v t
    let vs ← alike cast t vs
    uniform what "map" (mapOf? keys vs)

/-- The members that are wanted by their names, converted to the types for them. -/
def castMembers (cast : Value → ValueType → Except Text Value) (wanted : List (Text × ValueType))
    (members : List (Text × Value)) : Except Text (List (Text × Value)) :=
  (members.filterMap fun (name, v) => (wanted.lookup name).map fun t => (name, v, t)).mapM
    fun (name, v, t) => (cast v t).map (name, ·)

/-- The object with some members. -/
def ofMembers (members : List (Text × Value)) : Value :=
  object (members.map Prod.fst) (members.map Prod.snd)

/-! ## All values -/

/-- A value converted to a type to which values of its type are convertible, for values that are
nested less deep than a bound. -/
def castTo : Nat → Value → ValueType → Except Text Value
  | 0, v, _ => .ok v
  | n + 1, v, t =>
    if v.type.same t then .ok v
    else
      match v, t with
      | v, .dynamic => .ok v
      | unknown s l, t => .ok (castUnknown s l t)
      | null s, t => .ok (null (t.filledFrom s))
      | number a, .text => .ok (text a.text)
      | bool b, .text => .ok (text (Text.ofString (if b then "true" else "false")))
      | text s, .number => readNumber s
      | text s, .bool => readBool s
      | tuple vs, .tuple ts => ((vs.zip ts).mapM fun (v, t) => castTo n v t).map tuple
      | tuple vs, .list t => castList (castTo n) t vs
      | list s vs, .list .dynamic => .ok (list s vs)
      | list _ vs, .list t => castList (castTo n) t vs
      | object names vs, .object wanted ts =>
        (castMembers (castTo n) (wanted.zip ts) (names.zip vs)).map ofMembers
      | object names vs, .map t => castMap (castTo n) "attribute" t names vs
      | map s keys vs, .map .dynamic => .ok (map s keys vs)
      | map _ keys vs, .map t => castMap (castTo n) "element" t keys vs
      | map _ keys vs, .object wanted ts => do
        let members ← castMembers (castTo n) (wanted.zip ts) (keys.zip vs)
        match wanted.find? fun name => !keys.contains name with
        | some name =>
          .error (Text.ofString "map has no element for required attribute " ++ name.quoted)
        | none => .ok (ofMembers members)
      | v, _ => .ok v

/-- A value converted to a type to which values of its type are convertible. -/
def cast (v : Value) (t : ValueType) : Except Text Value :=
  castTo (v.type.depth + 1) v t

/-- A value as one of a wanted type. Whether there is a way is decided by its type, before any
element is looked at. -/
def convert (v : Value) (t : ValueType) : Except Text Value :=
  if v.type.same t then .ok v
  else if v.type.convertible t then v.cast t
  else .error (v.type.mismatch t)

end Value

end Config

end GridRobot
