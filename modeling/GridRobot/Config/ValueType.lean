import GridRobot.Text.Quoted

/-!
# Types of values

A value in brackets is a tuple and one in braces an object, and their elements may have different
types. Lists and maps, whose elements share a type, arise where a choice has to bring two tuples
or two objects of different form together. The dynamic type is that of null and of values that are
not known.

`ValueType.convertible` says from which types values can be converted to which, and
`ValueType.common?` finds the type that values of several types can be brought to. Where there is
none, `ValueType.mismatch` and `ValueType.disagreement` say why.
-/

namespace GridRobot

namespace Config

/-- The type of a value. -/
inductive ValueType where
  | dynamic
  | bool
  | number
  | text
  | tuple (elements : List ValueType)
  /-- An object: the names of its members in order, and their types. -/
  | object (names : List Text) (members : List ValueType)
  | list (element : ValueType)
  | map (element : ValueType)
  deriving Repr, Inhabited

namespace ValueType

/-! ## Comparing types -/

mutual

/-- Whether two types are the same. -/
def same : ValueType → ValueType → Bool
  | dynamic, dynamic => true
  | bool, bool => true
  | number, number => true
  | text, text => true
  | tuple ss, tuple ts => sameAll ss ts
  | object ms ss, object ns ts => ms == ns && sameAll ss ts
  | list s, list t => same s t
  | map s, map t => same s t
  | _, _ => false

/-- Whether two lists hold the same types. -/
def sameAll : List ValueType → List ValueType → Bool
  | [], [] => true
  | s :: ss, t :: ts => same s t && sameAll ss ts
  | _, _ => false

end

mutual

/-- How deep a type is nested. -/
def depth : ValueType → Nat
  | tuple ts => depthAll ts + 1
  | object _ ts => depthAll ts + 1
  | list t => depth t + 1
  | map t => depth t + 1
  | _ => 0

/-- How deep the deepest of some types is nested. -/
def depthAll : List ValueType → Nat
  | [] => 0
  | t :: ts => max (depth t) (depthAll ts)

end

mutual

/-- Whether a type is dynamic or holds a dynamic one. -/
def hasDynamic : ValueType → Bool
  | dynamic => true
  | tuple ts => haveDynamic ts
  | object _ ts => haveDynamic ts
  | list t => hasDynamic t
  | map t => hasDynamic t
  | _ => false

/-- Whether one of some types is dynamic or holds a dynamic one. -/
def haveDynamic : List ValueType → Bool
  | [] => false
  | t :: ts => hasDynamic t || haveDynamic ts

end

mutual

/-- Whether a type is like another one, in which the dynamic type stands for any. -/
def conforms : ValueType → ValueType → Bool
  | _, dynamic => true
  | bool, bool => true
  | number, number => true
  | text, text => true
  | tuple ss, tuple ts => conformAll ss ts
  | object ms ss, object ns ts => ms == ns && conformAll ss ts
  | list s, list t => conforms s t
  | map s, map t => conforms s t
  | _, _ => false

/-- Whether types are like others in the same places. -/
def conformAll : List ValueType → List ValueType → Bool
  | [], [] => true
  | s :: ss, t :: ts => conforms s t && conformAll ss ts
  | _, _ => false

end

/-- Whether a type is the dynamic one. -/
def isDynamic : ValueType → Bool
  | dynamic => true
  | _ => false

/-- Whether a type is a tuple type. -/
def isTuple : ValueType → Bool
  | tuple _ => true
  | _ => false

/-- Whether a type is an object type. -/
def isObject : ValueType → Bool
  | object _ _ => true
  | _ => false

/-- Whether a type is a list type. -/
def isList : ValueType → Bool
  | list _ => true
  | _ => false

/-- Whether a type is a map type. -/
def isMap : ValueType → Bool
  | map _ => true
  | _ => false

/-- The types of what a type holds. -/
def parts : ValueType → List ValueType
  | tuple ts => ts
  | object _ ts => ts
  | list t => [t]
  | map t => [t]
  | _ => []

/-- The name of a type. -/
def name : ValueType → Text
  | dynamic => Text.ofString "dynamic"
  | bool => Text.ofString "bool"
  | number => Text.ofString "number"
  | text => Text.ofString "string"
  | tuple _ => Text.ofString "tuple"
  | object _ _ => Text.ofString "object"
  | list t => Text.ofString "list of " ++ t.name
  | map t => Text.ofString "map of " ++ t.name

/-! ## Common types -/

/-- Whether a list of elements of any one type can be made out of elements of some types, where
`common` is the type that they can be brought to. The dynamic type only does for elements that all
have it. -/
def fitList (common : Option ValueType) (ts : List ValueType) : Bool :=
  match common with
  | some dynamic => ts.all isDynamic
  | common => ts.isEmpty || common.isSome

/-- Types in the order in which they are tried as a common one: strings, lists and maps, then
others, and the dynamic one last. -/
def byPreference (ts : List ValueType) : List ValueType :=
  let first := fun (t : ValueType) => match t with
    | text => true
    | list _ => true
    | map _ => true
    | _ => false
  ts.filter first ++ ts.filter (fun t => !first t && !t.isDynamic) ++ ts.filter isDynamic

/-- Types by position in several lists of them. -/
def acrossTuples : List (List ValueType) → List (List ValueType)
  | [] => []
  | ts :: rest => (List.range ts.length).map fun i => (ts :: rest).filterMap (·[i]?)

mutual

/-- Whether values of one type can be converted to another, for types that are not too deep. -/
def convertibleTo : Nat → ValueType → ValueType → Bool
  | 0, _, _ => false
  | n + 1, s, t =>
    s.same t ||
    match s, t with
    | _, dynamic => true
    | dynamic, _ => true
    | number, text => true
    | bool, text => true
    | text, number => true
    | text, bool => true
    | tuple ss, tuple ts =>
      ss.length = ts.length && (ss.zip ts).all fun (s, t) => convertibleTo n s t
    | object ms ss, object ns ts =>
      (ns.zip ts).all fun (name, t) => ((ms.zip ss).lookup name).any fun s => convertibleTo n s t
    | list s, list t => convertibleTo n s t
    | map s, map t => convertibleTo n s t
    | map s, object _ ts => ts.all fun t => convertibleTo n s t
    | tuple ss, list dynamic => fitList (commonTo? n ss) ss
    | tuple ss, list t => ss.all fun s => convertibleTo n s t
    | object _ ss, map dynamic => ss.isEmpty || (commonTo? n ss).isSome
    | object _ ss, map t => ss.all fun s => convertibleTo n s t
    | _, _ => false

/-- The type that values of some types can be brought to, for types that are not too deep. Tuples
of one length and objects with the same names keep their form, and otherwise become lists and
maps. -/
def commonTo? : Nat → List ValueType → Option ValueType
  | 0, _ => none
  | n + 1, ts =>
    let agreed := fun (t : ValueType) =>
      if ts.all fun s => convertibleTo n s t then some t else none
    let collected := fun (wrap : ValueType → ValueType) =>
      ((commonTo? n (ts.flatMap parts)).map wrap).bind agreed
    let preferred := (byPreference ts).findSome? agreed
    let known := ts.filter fun t => !t.isDynamic
    let loose := known.length < ts.length
    if known.isEmpty then preferred
    else if known.all isMap || known.all isList then
      if loose then some dynamic
      else collected (if known.all isMap then map else list)
    else if known.any isMap && known.all (fun t => t.isMap || t.isObject) then
      if loose then preferred else (collected map).or preferred
    else if known.any isList && known.all (fun t => t.isList || t.isTuple) then
      if loose then preferred else (collected list).or preferred
    else if known.all isObject then
      if loose then some dynamic
      else
        match ts with
        | object names _ :: _ =>
          if ts.all fun t => (match t with | object ms _ => ms == names | _ => false) then
            ((acrossTuples (ts.map parts)).mapM (commonTo? n)).bind fun members =>
              agreed (object names members)
          else collected map
        | _ => none
    else if known.all isTuple then
      if loose then some dynamic
      else if (ts.map fun t => t.parts.length).eraseDups.length = 1 then
        ((acrossTuples (ts.map parts)).mapM (commonTo? n)).bind fun members =>
          agreed (tuple members)
      else collected list
    else if known.any isObject && known.any isTuple then none
    else preferred

end

/-- A bound that is enough for types of their depth: each level takes two steps. -/
def enough (ts : List ValueType) : Nat :=
  2 * depthAll ts + 4

/-- Whether values of one type can be converted to another. -/
def convertible (s t : ValueType) : Bool :=
  convertibleTo (enough [s, t]) s t

/-- The type that values of some types can be brought to. -/
def common? (ts : List ValueType) : Option ValueType :=
  commonTo? (enough ts) ts

mutual

/-- A type where the parts that are dynamic are taken from another one. The elements of a list or
map come from what those of a tuple or an object have in common. -/
def filledFrom : ValueType → ValueType → ValueType
  | t, dynamic => t
  | dynamic, s => s
  | list t, list s => list (filledFrom t s)
  | list t, tuple ss => list (filledFrom t ((common? ss).getD dynamic))
  | map t, map s => map (filledFrom t s)
  | map t, object _ ss => map (filledFrom t ((common? ss).getD dynamic))
  | tuple ts, tuple ss => tuple (filledAll ts ss)
  | object names ts, object ms ss =>
    object names (filledAll ts (names.map fun name => ((ms.zip ss).lookup name).getD dynamic))
  | object names ts, map s => object names (filledAll ts (names.map fun _ => s))
  | t, _ => t

/-- Types where the parts that are dynamic are taken from others in the same places. -/
def filledAll : List ValueType → List ValueType → List ValueType
  | t :: ts, s :: ss => filledFrom t s :: filledAll ts ss
  | ts, _ => ts

end

/-! ## Messages -/

/-- The first of some types that cannot be converted to another one, with its place. -/
def misfit? (i : Nat) (t : ValueType) : List ValueType → Option (Nat × ValueType)
  | [] => none
  | s :: ss => if s.convertible t then misfit? (i + 1) t ss else some (i, s)

/-- Why values of a type cannot be converted to the one that is wanted. -/
def mismatch (s : ValueType) : ValueType → Text
  | list t =>
    let required := (list t).name ++ Text.ofString " required"
    match s with
    | tuple ss =>
      match misfit? 0 t ss with
      | some (i, s) =>
        Text.ofString "element " ++ Text.ofNat i ++ Text.ofString ": " ++ mismatch s t
      | none => Text.ofString "all elements must be " ++ t.name
    | list s => Text.ofString "incorrect list element type: " ++ mismatch s t
    | object _ _ => required
    | map _ => required
    | s => required ++ Text.ofString ", but have " ++ s.name
  | t => t.name ++ Text.ofString " required, but have " ++ s.name

/-- What two types are, for types that have nothing more particular to say. -/
def plainDisagreement (s t : ValueType) : Text :=
  if s.name = t.name then
    Text.ofString ("At least one deeply-nested attribute or element is not compatible across " ++
      "both the 'true' and the 'false' value")
  else Text.ofString "The 'true' value is " ++ s.name ++
    Text.ofString ", but the 'false' value is " ++ t.name

/-- The first pair of types that are not the same, with its place. -/
def unlike? (i : Nat) : List (ValueType × ValueType) → Option (Nat × ValueType × ValueType)
  | [] => none
  | (s, t) :: rest => if s.same t then unlike? (i + 1) rest else some (i, s, t)

/-- The first member of an object type that another one does not have, or has with another
type. -/
def unlikeMember? (other : List (Text × ValueType)) :
    List (Text × ValueType) → Option (Text × ValueType × Option ValueType)
  | [] => none
  | (name, s) :: rest =>
    match other.lookup name with
    | none => some (name, s, none)
    | some t => if s.same t then unlikeMember? other rest else some (name, s, some t)

/-- The words for a member that only one of two values has. -/
def lonely (here there : String) (name : Text) : Text :=
  Text.ofString ("The '" ++ here ++ "' value includes object attribute ") ++ name.quoted ++
    Text.ofString (", which is absent in the '" ++ there ++ "' value")

/-- What keeps the types of the two sides of a choice apart, for types that are not too deep. -/
def disagreementTo : Nat → ValueType → ValueType → Text
  | 0, s, t => plainDisagreement s t
  | n + 1, s, t =>
    match s, t with
    | object ms ss, object ns ts =>
      match unlikeMember? (ns.zip ts) (ms.zip ss) with
      | some (name, _, none) => lonely "true" "false" name
      | some (name, s, some t) =>
        Text.ofString "Type mismatch for object attribute " ++ name.quoted ++
          Text.ofString ": " ++ disagreementTo n s t
      | none =>
        match ns.find? fun name => !ms.contains name with
        | some name => lonely "false" "true" name
        | none => plainDisagreement s t
    | tuple ss, tuple ts =>
      if ss.length ≠ ts.length then
        Text.ofString "The 'true' tuple has length " ++ Text.ofNat ss.length ++
          Text.ofString ", but the 'false' tuple has length " ++ Text.ofNat ts.length
      else
        match unlike? 0 (ss.zip ts) with
        | some (i, s, t) =>
          Text.ofString "Type mismatch for tuple element " ++ Text.ofNat i ++
            Text.ofString ": " ++ disagreementTo n s t
        | none => plainDisagreement s t
    | list a, list b =>
      if (a.isObject && b.isObject) || (a.isTuple && b.isTuple) then
        Text.ofString "Mismatched list element types: " ++ disagreementTo n a b
      else plainDisagreement s t
    | map a, map b =>
      if (a.isObject && b.isObject) || (a.isTuple && b.isTuple) then
        Text.ofString "Mismatched map element types: " ++ disagreementTo n a b
      else plainDisagreement s t
    | s, t => plainDisagreement s t

/-- What keeps the types of the two sides of a choice apart. -/
def disagreement (s t : ValueType) : Text :=
  disagreementTo (depthAll [s, t] + 1) s t

end ValueType

end Config

end GridRobot
