import GridRobot.Config.Value

/-!
# Comparison

Values of different types differ, and nulls of all types are equal. Where a value or a part of it
is unknown, the answer may still be known: its type or its limits can tell that it is another one.
An answer that is missing stands for one that cannot be told.
-/

namespace GridRobot

namespace Config

/-- Whether a known value that is not null may be one of a type with limits. -/
def Limits.admit (l : Limits) (t : ValueType) (v : Value) : Bool :=
  v.type.conforms t &&
  match v with
  | .number n => (l.range.map fun r => r.contains n).getD true
  | .text s => l.start.isPrefixOf s
  | .list _ vs => l.least ≤ vs.length && l.most.all (vs.length ≤ ·)
  | .map _ _ vs => l.least ≤ vs.length && l.most.all (vs.length ≤ ·)
  | _ => true

namespace Value

mutual

/-- Whether nothing in a value has a type that is still open. Null has none to be found out. -/
def hasFixedType : Value → Bool
  | unknown t _ => !t.hasDynamic
  | tuple vs => haveFixedTypes vs
  | object _ vs => haveFixedTypes vs
  | list _ vs => haveFixedTypes vs
  | map _ _ vs => haveFixedTypes vs
  | _ => true

/-- Whether nothing in some values has a type that is still open. -/
def haveFixedTypes : List Value → Bool
  | [] => true
  | v :: vs => hasFixedType v && haveFixedTypes vs

end

/-- Both of two answers, where the first that settles the matter is taken. -/
def both (a : Option Bool) (b : Option Bool) : Option Bool :=
  match a with
  | some true => b
  | a => a

/-- Whether an unknown value equals a known one that is not null. It can only be told that it does
not. -/
def equalUnknown? (t : ValueType) (l : Limits) (v : Value) : Option Bool :=
  if l.admit t v && (t.hasDynamic || t.same v.type) then none else some false

/-- Whether two known values that are not null can be equal by their types, if that can be told. -/
def equalTypes? (v w : Value) : Option Bool :=
  if v.hasFixedType && w.hasFixedType then some (v.type.same w.type)
  else if v.type.conforms w.type || w.type.conforms v.type then none
  else some false

mutual

/-- Whether two values are equal, if that can be told. -/
def equal? : Value → Value → Option Bool
  | unknown _ _, unknown _ _ => none
  | null _, w => if w.isPresent then some false else if w.isKnown then some true else none
  | unknown _ l, null _ => if l.present then some false else none
  | _, null _ => some false
  | unknown t l, w => equalUnknown? t l w
  | v, unknown t l => equalUnknown? t l v
  | bool a, bool b => some (a == b)
  | number a, number b => some (a.equal b)
  | text a, text b => some (a == b)
  | tuple vs, w => both (equalTypes? (tuple vs) w) <|
    match w with
    | tuple ws => equalAll? vs ws
    | _ => some false
  | object names vs, w => both (equalTypes? (object names vs) w) <|
    match w with
    | object _ ws => equalAll? vs ws
    | _ => some false
  | list t vs, w => both (equalTypes? (list t vs) w) <|
    match w with
    | list _ ws => both (some (vs.length == ws.length)) (equalAll? vs ws)
    | _ => some false
  | map t keys vs, w => both (equalTypes? (map t keys vs) w) <|
    match w with
    | map _ others ws => both (some (keys == others)) (equalAll? vs ws)
    | _ => some false
  | _, _ => some false

/-- Whether two lists hold equal values, if that can be told. -/
def equalAll? : List Value → List Value → Option Bool
  | v :: vs, w :: ws => both (equal? v w) (equalAll? vs ws)
  | _, _ => some true

end

/-- Whether one number is less than another, if that can be told. -/
def less? : Value → Value → Option Bool
  | number a, number b => some (a.less b)
  | v, w => (v.limits.range.getD .all).less? (w.limits.range.getD .all)

/-- Whether one number is less than another or equal to it, if that can be told. -/
def lessEqual? (v w : Value) : Option Bool :=
  (v.less? w).bind fun less => (v.equal? w).map fun equal => less || equal

end Value

end Config

end GridRobot
