import GridRobot.Config.Limits
import GridRobot.Config.ValueType

/-!
# Values

A value has a type. Null and unknown values have a type too. An unknown value stands for that of an
expression with a fault, or for one that is not looked at yet; its limits tell what is known of it
all the same. Where the limits leave only one value, it is that value, and a list of known length
is a list of unknown elements.
-/

namespace GridRobot

namespace Config

/-- The value of an expression. -/
inductive Value where
  | unknown (type : ValueType) (limits : Limits)
  | null (type : ValueType)
  | bool (b : Bool)
  | number (n : Number)
  | text (t : Text)
  | tuple (vs : List Value)
  /-- An object: the names of its members in order, and their values. -/
  | object (names : List Text) (vs : List Value)
  | list (element : ValueType) (vs : List Value)
  /-- A map: the keys of its elements in order, and their values. -/
  | map (element : ValueType) (keys : List Text) (vs : List Value)

namespace Value

mutual

/-- The type of a value. -/
def type : Value → ValueType
  | unknown t _ => t
  | null t => t
  | bool _ => .bool
  | number _ => .number
  | text _ => .text
  | tuple vs => .tuple (types vs)
  | object names vs => .object names (types vs)
  | list t _ => .list t
  | map t _ _ => .map t

/-- The types of values. -/
def types : List Value → List ValueType
  | [] => []
  | v :: vs => type v :: types vs

end

/-! ## Unknown values -/

/-- A value of which nothing but its type is known. -/
def ofType (t : ValueType) : Value :=
  unknown t .none

/-- A value of which nothing is known. -/
def anything : Value :=
  ofType .dynamic

/-- A value of a type with limits. Of a value of the dynamic type nothing is known. -/
def limited (t : ValueType) (l : Limits) : Value :=
  match t with
  | .dynamic => anything
  | .number => ((l.range.filter fun _ => l.present).bind NumberRange.only?).elim (unknown t l) number
  | .list e =>
    (l.length?.filter fun _ => l.present).elim (unknown t l) fun n =>
      list e (List.replicate n (ofType e))
  | .map e => if l.present && l.length? = some 0 then map e [] [] else unknown t l
  | t => unknown t l

/-- A value of a type of which nothing is known but whether it may be null. -/
def vague (t : ValueType) (present : Bool) : Value :=
  limited t (.ofPresent present)

/-- A value of a type that is not null, of which nothing else is known. -/
def present (t : ValueType) : Value :=
  vague t true

/-- What is known of a value as limits. -/
def limits : Value → Limits
  | unknown _ l => l
  | null _ => .none
  | number n => { Limits.ofPresent true with range := some (.only n) }
  | text t => { Limits.ofPresent true with start := t }
  | list _ vs => .ofLength true vs.length
  | map _ _ vs => .ofLength true vs.length
  | _ => .ofPresent true

/-! ## Tests -/

/-- Whether a value is null. -/
def isNull : Value → Bool
  | null _ => true
  | _ => false

/-- Whether a value is known; what it holds may still be unknown. -/
def isKnown : Value → Bool
  | unknown _ _ => false
  | _ => true

/-- Whether a value cannot be null. -/
def isPresent (v : Value) : Bool :=
  v.limits.present

/-- Whether a value is null without a type. -/
def isBareNull : Value → Bool
  | null .dynamic => true
  | _ => false

/-! ## Lists and maps -/

/-- An element as one of a list or map, whose type it takes if it has none of its own. -/
def asElement (t : ValueType) : Value → Value
  | null .dynamic => null t
  | unknown .dynamic _ => ofType t
  | v => v

/-- The type of the elements of a list or map that holds some values: the type that all of them
have, apart from those that have none of their own. -/
def elementType? (vs : List Value) : Option ValueType :=
  match (types vs).filter fun t => !t.isDynamic with
  | [] => some .dynamic
  | t :: ts => if ts.all t.same then some t else none

/-- The list of some values, if they are of one type. -/
def listOf? (vs : List Value) : Option Value :=
  (elementType? vs).map fun t => list t (vs.map (asElement t))

/-- The map of some values at keys, if they are of one type. -/
def mapOf? (keys : List Text) (vs : List Value) : Option Value :=
  (elementType? vs).map fun t => map t keys (vs.map (asElement t))

end Value

end Config

end GridRobot
