import GridRobot.Geometry
import GridRobot.Text.Case

/-!
# Directions

The robot moves in eight directions, four along the axes and four diagonal ones, each known by a
word of the command language. A set of directions is a byte with one bit for each.
-/

namespace GridRobot

/-- One of the eight directions of movement. -/
inductive Direction where
  | up
  | down
  | left
  | right
  | upLeft
  | upRight
  | downLeft
  | downRight
  deriving DecidableEq, Repr, Inhabited

namespace Direction

/-- Every direction, in the order of their numbers. -/
def all : List Direction :=
  [up, down, left, right, upLeft, upRight, downLeft, downRight]

/-- The directions along the axes, which the obstacle sensor looks in. -/
def axes : List Direction :=
  [up, down, left, right]

/-- The number of a direction. -/
def index : Direction → Nat
  | up => 0
  | down => 1
  | left => 2
  | right => 3
  | upLeft => 4
  | upRight => 5
  | downLeft => 6
  | downRight => 7

/-- The direction with a number. -/
def ofIndex? (i : Nat) : Option Direction :=
  all[i]?

/-- The displacement of one step. -/
def delta : Direction → Delta
  | up => ⟨-1, 0⟩
  | down => ⟨1, 0⟩
  | left => ⟨0, -1⟩
  | right => ⟨0, 1⟩
  | upLeft => ⟨-1, -1⟩
  | upRight => ⟨-1, 1⟩
  | downLeft => ⟨1, -1⟩
  | downRight => ⟨1, 1⟩

/-- The word for a direction. -/
def name : Direction → Text
  | up => Text.ofString "CIMA"
  | down => Text.ofString "BAIXO"
  | left => Text.ofString "ESQUERDA"
  | right => Text.ofString "DIREITA"
  | upLeft => Text.ofString "CIMA-ESQUERDA"
  | upRight => Text.ofString "CIMA-DIREITA"
  | downLeft => Text.ofString "BAIXO-ESQUERDA"
  | downRight => Text.ofString "BAIXO-DIREITA"

/-- The word for the direction with a number, where any other number has a word of its own. -/
def nameAt (i : Int) : Text :=
  match i with
  | .ofNat n => ((ofIndex? n).map name).getD (Text.ofString "DESCONHECIDA")
  | .negSucc _ => Text.ofString "DESCONHECIDA"

/-- The direction that a word names, in any letter case. -/
def read? (word : Text) : Option Direction :=
  let raised := word.upper
  all.find? fun d => d.name == raised

end Direction

/-- A set of directions, with the bit of a direction's number set for each member. -/
structure DirectionSet where
  bits : UInt8
  deriving DecidableEq, Repr, Inhabited

namespace DirectionSet

/-- The set without members. -/
def empty : DirectionSet :=
  ⟨0⟩

/-- Whether the bit with a number is set; a byte has no bit from the eighth on. -/
def hasBit (s : DirectionSet) (i : Nat) : Bool :=
  i < 8 && s.bits.toNat.testBit i

/-- The set with the bit of a number set, if there is one. -/
def setBit (s : DirectionSet) (i : Nat) : DirectionSet :=
  if i < 8 then ⟨UInt8.ofNat (s.bits.toNat ||| 1 <<< i)⟩ else s

/-- Whether a direction is a member. -/
def has (s : DirectionSet) (d : Direction) : Bool :=
  s.hasBit d.index

/-- The set with a direction added. -/
def insert (s : DirectionSet) (d : Direction) : DirectionSet :=
  s.setBit d.index

/-- The members in the order of their numbers. -/
def toList (s : DirectionSet) : List Direction :=
  Direction.all.filter s.has

end DirectionSet

end GridRobot
