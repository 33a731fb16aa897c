import GridRobot.Board.Basic
import GridRobot.BoardFile.Token
import GridRobot.Text.Integer

/-!
# Layouts from board files

A board file is a list of statements: the size, the robot's place, the target, and obstacles.
Size and target must be given, the robot starts at the origin unless the file says otherwise, and
only obstacles may be given more than once. `BoardFile.read` gives the layout that a text
describes, and `BoardFile.Fault.message` says what is wrong with a text that describes none.
-/

namespace GridRobot

namespace BoardFile

/-- What a token was expected to be. -/
inductive Expected where
  | number
  | coordinate
  deriving DecidableEq, Repr, Inhabited

/-- What is wrong with a board file. -/
inductive Fault where
  /-- The rest of the text begins with no lexeme. -/
  | unreadable (place : Place) (rest : List Rune)
  /-- A token does not belong where it stands. -/
  | unexpected (place : Place) (found : Text) (expected : Option Expected)
  /-- A number has no value. -/
  | badNumber (place : Place) (numeral : Text) (why : NumeralError)
  /-- A statement that may stand only once is repeated. -/
  | repeated (place : Place) (word : Word)
  /-- The statements describe no board. -/
  | incomplete (e : BoardError)
  deriving DecidableEq, Repr

/-! ## Messages -/

/-- How many runes of an unreadable rest are shown. -/
def sampleLength : Nat := 16

/-- The beginning of an unreadable rest. -/
def sample (rest : List Rune) : Text :=
  let shown := (rest.take sampleLength).flatMap Rune.asChar
  if (rest.drop sampleLength).isEmpty then shown else shown ++ Text.ofString "..."

/-- The part of a message that says what was expected. -/
def expectation : Option Expected → Text
  | none => []
  | some .number => Text.ofString " (expected <int>)"
  | some .coordinate => Text.ofString " (expected Coordinate)"

/-- The reason for which a numeral has no value. -/
def numeralReason : NumeralError → Text
  | .malformed => Text.ofString "invalid syntax"
  | .outOfRange => Text.ofString "value out of range"

/-- The message for a fault in a named file. -/
def Fault.message (file : Text) : Fault → Text
  | unreadable p rest =>
    p.text file ++ Text.ofString ": lexer: invalid input text " ++ (sample rest).quoted
  | unexpected p found expected =>
    p.text file ++ Text.ofString ": unexpected token " ++ found.quoted ++ expectation expected
  | badNumber p numeral why =>
    p.text file ++ Text.ofString ": failed to conform: strconv.ParseInt: parsing " ++
      numeral.quoted ++ Text.ofString ": " ++ numeralReason why
  | repeated p word =>
    p.text file ++ Text.ofString ": " ++ word.text ++ Text.ofString " given twice"
  | incomplete e => e.message

/-! ## Statements -/

/-- What a statement says. -/
inductive Content where
  | size (n : Int64)
  | robot (p : Position)
  | target (p : Position)
  | obstacle (p : Position)
  deriving DecidableEq, Repr, Inhabited

/-- A statement with the place of its keyword. -/
structure Statement where
  place : Place
  content : Content
  deriving DecidableEq, Repr, Inhabited

/-- How the end of a file is named. -/
def endOfFile : Text :=
  Text.ofString "<EOF>"

/-- The number token that must come next. -/
def needNumber (ending : Place) (expected : Expected) : Option Token → Except Fault Token
  | none => .error (.unexpected ending endOfFile (some expected))
  | some t =>
    match t.kind with
    | .number => .ok t
    | .keyword _ => .error (.unexpected t.place t.text (some expected))

/-- The value of a number token. -/
def Token.value (t : Token) : Except Fault Int64 :=
  (Text.readNumeral t.text).mapError fun why => .badNumber t.gap t.text why

/-- The coordinate at the start of a list of tokens. Both numbers must be there before either is
read. -/
def coordinate (ending : Place) (ts : List Token) : Except Fault Position := do
  let x ← needNumber ending .coordinate ts.head?
  let y ← needNumber ending .number ts.tail.head?
  return ⟨← x.value, ← y.value⟩

/-- What a keyword says with the tokens that follow it. -/
def content (ending : Place) (ts : List Token) : Word → Except Fault Content
  | .size => do
    let n ← needNumber ending .number ts.head?
    return .size (← n.value)
  | .robot => .robot <$> coordinate ending ts
  | .target => .target <$> coordinate ending ts
  | .obstacle => .obstacle <$> coordinate ending ts

/-- How many numbers follow a keyword. -/
def Word.arity : Word → Nat
  | size => 1
  | robot => 2
  | target => 2
  | obstacle => 2

/-- The statements of a list of tokens, put after those already read. -/
def statementsOnto (ending : Place) (read : List Statement) :
    List Token → Except Fault (List Statement)
  | [] => .ok read.reverse
  | t :: ts =>
    match t.kind with
    | .number => .error (.unexpected t.place t.text none)
    | .keyword w =>
      match content ending ts w with
      | .error e => .error e
      | .ok c => statementsOnto ending (⟨t.place, c⟩ :: read) (ts.drop w.arity)
termination_by ts => ts.length
decreasing_by simp only [List.length_cons, List.length_drop]; omega

/-- The statements of a text. -/
def statements (t : Text) : Except Fault (List Statement) :=
  match scan t with
  | .error (place, rest) => .error (.unreadable place rest)
  | .ok ts => statementsOnto ts.ending [] ts.tokens

/-! ## Layouts -/

/-- What the statements read so far say, the obstacles apart. -/
structure Draft where
  size : Option Int64
  robot : Option Position
  target : Option Position
  deriving DecidableEq, Repr, Inhabited

/-- A value that was not given before. -/
def once {α : Type} (place : Place) (word : Word) (old : Option α) (new : α) :
    Except Fault (Option α) :=
  if old.isSome then .error (.repeated place word) else .ok (some new)

/-- The draft after a statement. -/
def Draft.add (d : Draft) (s : Statement) : Except Fault Draft :=
  match s.content with
  | .size n => (once s.place .size d.size n).map fun v => { d with size := v }
  | .robot p => (once s.place .robot d.robot p).map fun v => { d with robot := v }
  | .target p => (once s.place .target d.target p).map fun v => { d with target := v }
  | .obstacle _ => .ok d

/-- The position that a statement makes an obstacle. -/
def Statement.obstacle? (s : Statement) : Option Position :=
  match s.content with
  | .obstacle p => some p
  | _ => none

/-- The layout that statements describe. -/
def layout (ss : List Statement) : Except Fault Layout := do
  let d ← ss.foldlM Draft.add ⟨none, none, none⟩
  match d.size, d.target with
  | none, _ => .error (.incomplete .missingSize)
  | some _, none => .error (.incomplete .missingTarget)
  | some size, some target =>
    return { size, target
             robot := d.robot.getD .origin
             obstacles := ss.filterMap Statement.obstacle? }

/-- The layout that a board file describes. -/
def read (t : Text) : Except Fault Layout := do
  layout (← statements t)

end BoardFile

end GridRobot
