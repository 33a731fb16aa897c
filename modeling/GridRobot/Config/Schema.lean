import GridRobot.Config.Body
import GridRobot.Config.Eval
import GridRobot.Text.Quoted

/-!
# What a configuration file may say

A file may hold one block each for the board, the scheduler and the log, and whatever else it
likes beside them. Inside these blocks only the attributes that belong there may stand, each with
a value of its type. `Schema.decode` gives the values, or diagnostics about everything that is
amiss.
-/

namespace GridRobot

namespace Config

/-- The blocks that are looked at. -/
inductive BlockType where
  | board
  | scheduler
  | log
  deriving DecidableEq, Repr, Inhabited

namespace BlockType

/-- All of them. -/
def all : List BlockType :=
  [board, scheduler, log]

/-- The name of a block. -/
def name : BlockType → Text
  | board => Text.ofString "board"
  | scheduler => Text.ofString "scheduler"
  | log => Text.ofString "log"

/-- The attributes of a block with their types, in the order of their names. -/
def attributes : BlockType → List (Text × ValueType)
  | board => [
    (Text.ofString "layout", .text), (Text.ofString "obstacles", .number),
    (Text.ofString "robot", .list .number), (Text.ofString "seed", .number),
    (Text.ofString "size", .number), (Text.ofString "solvable", .bool),
    (Text.ofString "target", .list .number)]
  | scheduler => [(Text.ofString "tick", .text)]
  | log => [(Text.ofString "format", .text), (Text.ofString "level", .text)]

end BlockType

/-- The value of an attribute. -/
inductive Datum where
  | bool (b : Bool)
  | int (n : Int64)
  | text (t : Text)
  | ints (ns : List Int64)
  deriving DecidableEq, Repr

namespace Schema

/-! ## Values of attributes -/

/-- The integer that a value is. -/
def int : Value → Except Text Int64
  | .number n =>
    match n.toInt64? with
    | some i => .ok i
    | none => .error (Text.ofString ("value must be a whole number, between " ++
        "-9223372036854775808 and 9223372036854775807"))
  | .null _ => .error (Text.ofString "null value is not allowed")
  | _ => .error (Text.ofString "value must be known")

/-- The datum that a value is; null is none. -/
def datum : Value → Except Text (Option Datum)
  | .null _ => .ok none
  | .bool b => .ok (some (.bool b))
  | .text t => .ok (some (.text t))
  | .list _ vs => (vs.mapM int).map fun ns => some (.ints ns)
  | v => (int v).map fun n => some (.int n)

/-- The datum that an expression gives for an attribute of some type. -/
def decodeValue (t : ValueType) (e : Expr) : Option Datum × List Diagnostic :=
  let (v, ds) := e.eval .none
  match (v.convert t).bind datum with
  | .ok d => (d, ds)
  | .error message =>
    (none, ds ++ [.new e.start (Text.ofString "Unsuitable value type")
      (Text.ofString "Unsuitable value: " ++ message)])

/-! ## Items that do not belong -/

/-- The diagnostic about an attribute that does not belong into a block, where `free` are the
names of attributes that the block does not have yet. -/
def strayAttribute (free : List Text) (a : Attribute) : Diagnostic :=
  .new a.nameSpan (Text.ofString "Unsupported argument")
    (Text.ofString "An argument named " ++ a.name.quoted ++
      Text.ofString " is not expected here." ++ Text.suggestion a.name free)

/-- The diagnostic about a block inside a block, which never belongs there. -/
def strayBlock (t : BlockType) (name : Text) (span : Span) : Diagnostic :=
  let hint := if (t.attributes.map Prod.fst).contains name then
      Text.ofString " Did you mean to define argument " ++ name.quoted ++
        Text.ofString "? If so, use the equals sign to assign it a value."
    else []
  .new span (Text.ofString "Unsupported block type")
    (Text.ofString "Blocks of type " ++ name.quoted ++ Text.ofString " are not expected here." ++
      hint)

/-- The diagnostics about items that do not belong into a block. -/
def strays (t : BlockType) (b : Body) : List Diagnostic :=
  let known := t.attributes.map Prod.fst
  let free := known.filter fun name => !b.names.contains name
  let attributes := b.filterMap fun
    | .attribute a => if known.contains a.name then none else some (strayAttribute free a)
    | .block _ _ _ _ => none
  let blocks := b.filterMap fun
    | .attribute _ => none
    | .block name span _ _ => some (strayBlock t name span)
  attributes ++ blocks

/-! ## Blocks -/

/-- The attributes that a block gives values to. -/
abbrev Data := List (Text × Datum)

/-- The attribute of a body with a name. -/
def attribute? (b : Body) (name : Text) : Option Attribute :=
  b.findSome? fun
    | .attribute a => if a.name = name then some a else none
    | .block _ _ _ _ => none

/-- The data of a block. -/
def decodeBlock (t : BlockType) (b : Body) : Data × List Diagnostic :=
  let found := t.attributes.filterMap fun (name, t) =>
    (attribute? b name).map fun a => (name, decodeValue t a.value)
  (found.filterMap fun (name, d, _) => d.map (name, ·),
    strays t b ++ found.flatMap fun (_, _, ds) => ds)

/-- The diagnostic about labels on a block. -/
def extraneous (t : BlockType) (label : Span) : Diagnostic :=
  .new label (Text.ofString "Extraneous label for " ++ t.name)
    (Text.ofString "No labels are expected for " ++ t.name ++ Text.ofString " blocks.")

/-- The diagnostic about a second block. -/
def duplicate (t : BlockType) (first second : Span) : Diagnostic :=
  ⟨second, Text.ofString "Duplicate " ++ t.name ++ Text.ofString " block",
    fun file => Text.ofString "Only one " ++ t.name ++
      Text.ofString " block is allowed. Another was defined at " ++ first.text file ++
      Text.ofString "."⟩

/-- The blocks of a type without labels, each with the span of its name. -/
def blocks (t : BlockType) (b : Body) : List (Span × Body) :=
  b.filterMap fun
    | .block name span [] body => if name = t.name then some (span, body) else none
    | _ => none

/-- The diagnostics about labels in a file. -/
def labelled (b : Body) : List Diagnostic :=
  b.filterMap fun
    | .block name _ (label :: _) _ =>
      (BlockType.all.find? fun t => t.name == name).map fun t => extraneous t label
    | _ => none

/-- The data of the only block of a type, if there is one. -/
def decodeType (t : BlockType) (b : Body) : Data × List Diagnostic :=
  match blocks t b with
  | [] => ([], [])
  | [(_, body)] => decodeBlock t body
  | (first, _) :: (second, _) :: _ => ([], [duplicate t first second])

/-- What a file says about each block. -/
structure Contents where
  board : Data
  scheduler : Data
  log : Data
  deriving DecidableEq, Repr

/-- What a file says, or what is amiss with it. -/
def decode (b : Body) : Except (List Diagnostic) Contents :=
  let board := decodeType .board b
  let scheduler := decodeType .scheduler b
  let log := decodeType .log b
  match labelled b ++ board.2 ++ scheduler.2 ++ log.2 with
  | [] => .ok ⟨board.1, scheduler.1, log.1⟩
  | ds => .error ds

end Schema

end Config

end GridRobot
