import GridRobot.Config.Expr
import GridRobot.Config.Outcome
import GridRobot.Text.Composed

/-!
# Members and elements

A member of an object or map is named, an element of a tuple or list is numbered from zero, and a
key in brackets does for all of them. `Access.walk` follows steps into a value, up to the first
that leads nowhere.
-/

namespace GridRobot

namespace Config

/-- The value of a literal. Strings are in composed form. -/
def Literal.value : Literal → Value
  | null => .null .dynamic
  | bool b => .bool b
  | number n => .number n
  | text t => .text t.composed

namespace Access

/-! ## Elements by key -/

/-- The diagnostic about a key that leads nowhere, with what there is more to say about it. -/
def badKey (span : Span) (more : Text) : Outcome :=
  .fault span "Invalid index" (Text.ofString
    "The given key does not identify an element in this collection value" ++ more)

/-- Why a number is not that of one of `length` elements. -/
def badNumber (length : Nat) (n : Number) : String :=
  if !n.isWhole then
    ": indexing a sequence requires a whole number, but the given index has a fractional part."
  else if n.isBelowZero then ": a negative number is not a valid index for a sequence."
  else if n.magnitude.whole? = some length then
    if length = 0 then ": the collection has no elements."
    else ": the given index is greater than or equal to the length of the collection."
  else "."

/-- The values in a tuple or list, if it is known what there is; an unknown tuple holds unknown
values. -/
def numbered? : Value → Option (List Value)
  | .tuple vs => some vs
  | .unknown (.tuple ts) _ => some (ts.map .ofType)
  | .list _ vs => some vs
  | _ => none

/-- The numbered element of a tuple or list; `t` is the type of an element that is not known. -/
def numberedElement (span : Span) (v : Value) (t : ValueType) (key : Value) : Outcome :=
  match key.convert .number with
  | .error message => badKey span (Text.ofString ": " ++ message ++ Text.ofString ".")
  | .ok (.number n) =>
    match numbered? v with
    | none => (.ofType t, [])
    | some vs =>
      let found := if n.isWhole && !n.isBelowZero then n.magnitude.whole?.bind (vs[·]?) else none
      match found with
      | some w => (w, [])
      | none => badKey span (Text.ofString (badNumber vs.length n))
  | .ok _ => (.ofType t, [])

/-- The element of a map at a key; `t` is the type of its elements. -/
def keyedElement (span : Span) (v : Value) (t : ValueType) (key : Value) : Outcome :=
  match key.convert .text with
  | .error message => badKey span (Text.ofString ": " ++ message ++ Text.ofString ".")
  | .ok (.text name) =>
    match v with
    | .map _ keys vs =>
      match (keys.zip vs).lookup name with
      | some w => (w, [])
      | none => badKey span (Text.ofString ".")
    | _ => (.ofType t, [])
  | .ok _ => (.ofType t, [])

/-- The member of an object at a key. -/
def keyedMember (span : Span) (v : Value) (names : List Text) (key : Value) : Outcome :=
  let hint := match key.type with
    | .number => " An object only supports looking up attributes by name, not by numeric index."
    | _ => ""
  match key.convert .text with
  | .error message => badKey span (Text.ofString ": " ++ message ++ Text.ofString ".")
  | .ok (.text name) =>
    match v with
    | .object _ vs =>
      match (names.zip vs).lookup name with
      | some w => (w, [])
      | none => badKey span (Text.ofString ("." ++ hint))
    | _ => (.anything, [])
  | .ok _ => (.anything, [])

/-- The element of a value at a key. -/
def element (span : Span) (v key : Value) : Outcome :=
  if v.isNull then
    .fault span "Attempt to index null value"
      (Text.ofString "This value is null, so it does not have any indices.")
  else if key.isNull then
    .fault span "Invalid index" (Text.ofString "Can't use a null value as an indexing key.")
  else if v.type.isDynamic || key.type.isDynamic then (.anything, [])
  else
    match v.type with
    | .tuple _ => numberedElement span v .dynamic key
    | .list t => numberedElement span v t key
    | .map t => keyedElement span v t key
    | .object names _ => keyedMember span v names key
    | _ => .fault span "Invalid index" (Text.ofString "This value does not have any indices.")

/-! ## Members by name -/

/-- The diagnostic about a member that is asked of a value that has none of its name. -/
def badMember (span : Span) (detail : Text) : Outcome :=
  .fault span "Unsupported attribute" detail

/-- The detail about a member that is asked of a list of objects. -/
def listOfObjects (names : List Text) (given : Text) : Text :=
  let what := if names.contains given.composed then Text.ofString "attribute " ++ given.quoted
    else Text.ofString "an attribute"
  Text.ofString "Can't access attributes on a list of objects. Did you mean to access " ++ what ++
    Text.ofString " for a specific element of the list, or across all elements of the list?"

/-- The named member of a value. -/
def member (span : Span) (v : Value) (given : Text) : Outcome :=
  let name := given.composed
  if v.isNull then
    .fault span "Attempt to get attribute from null value"
      (Text.ofString "This value is null, so it does not have any attributes.")
  else
    match v.type with
    | .dynamic => (.anything, [])
    | .object names ts =>
      match (names.zip ts).lookup name with
      | none => badMember span (Text.ofString "This object does not have an attribute named " ++
          given.quoted ++ Text.ofString ".")
      | some t =>
        match v with
        | .object _ vs => (((names.zip vs).lookup name).getD .anything, [])
        | _ => (.ofType t, [])
    | .map t =>
      match v with
      | .map _ keys vs =>
        match (keys.zip vs).lookup name with
        | some w => (w, [])
        | none => .fault span "Missing map element"
            (Text.ofString "This map does not have an element with the key " ++ given.quoted ++
              Text.ofString ".")
      | _ => (.ofType t, [])
    | .list (.object names _) => badMember span (listOfObjects names given)
    | .list _ => badMember span (Text.ofString "This value does not have any attributes.")
    | .tuple _ => badMember span (Text.ofString "This value does not have any attributes.")
    | t => badMember span (Text.ofString "Can't access attributes on a primitive-typed value (" ++
        t.name ++ Text.ofString ").")

/-! ## Steps -/

/-- What one step leads to. -/
def step (v : Value) : Step → Outcome
  | .member name span => member span v name
  | .element key span => element span v key.value

/-- What steps lead to. -/
def walk (v : Value) : List Step → Outcome
  | [] => (v, [])
  | s :: steps =>
    match step v s with
    | (w, []) => walk w steps
    | o => o

end Access

end Config

end GridRobot
