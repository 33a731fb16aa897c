import GridRobot.Config.Expr
import GridRobot.Config.Outcome
import GridRobot.Text.Quoted

/-!
# Loops

A loop goes through the elements of a value and makes a tuple or an object out of what it finds; a
splat applies the same steps to every element. The functions below take the parts of the loop as
functions of what they depend on, so they say what becomes of the outcomes and nothing about how
these are found.

Before a loop starts, its condition is tried out with elements that are not known. That finds
conditions which can never be one, and reports them once.
-/

namespace GridRobot

namespace Config

/-- A key and a value that a loop has come to. -/
structure Element where
  key : Value
  value : Value

namespace Loop

/-! ## What is gone through -/

/-- The numbered elements of a sequence. -/
def numbered (vs : List Value) : List Element :=
  vs.zipIdx.map fun (v, i) => ⟨.number (.ofNat i), v⟩

/-- The named elements of an object or map. -/
def named (names : List Text) (vs : List Value) : List Element :=
  (names.zip vs).map fun (name, v) => ⟨.text name, v⟩

/-- The elements of a value; none if it is not known what they are. -/
def elements? : Value → Option (List Element)
  | .tuple vs => some (numbered vs)
  | .list _ vs => some (numbered vs)
  | .object names vs => some (named names vs)
  | .map _ keys vs => some (named keys vs)
  | _ => none

/-- Whether values of a type have elements. -/
def hasElements : ValueType → Bool
  | .tuple _ => true
  | .object _ _ => true
  | .list _ => true
  | .map _ => true
  | _ => false

/-- The elements that a loop goes through, if it is known what they are, or the outcome of a loop
that cannot start. -/
def elements (span : Span) (o : Outcome) : Except Outcome (Option (List Element)) :=
  if o.1.isNull then
    .error ((Outcome.fault span "Iteration over null value"
      (Text.ofString "A null value cannot be used as the collection in a 'for' expression.")).after
        o.2)
  else if o.1.type.isDynamic then .error (.anything, o.2)
  else if !hasElements o.1.type then
    .error ((Outcome.fault span "Iteration over non-iterable value"
      (Text.ofString "A value of type " ++ o.1.type.name ++
        Text.ofString " cannot be used as the collection in a 'for' expression.")).after o.2)
  else .ok (elements? o.1)

/-! ## Conditions -/

/-- An element of which nothing is known. -/
def anyElement : Element :=
  ⟨.anything, .anything⟩

/-- The diagnostic about a condition that is no truth value. -/
def badCondition (span : Span) (message : Text) : List Diagnostic :=
  Outcome.note span "Invalid 'for' condition"
    (Text.ofString "The 'if' clause value is invalid: " ++ message ++ Text.ofString ".")

/-- The diagnostics about a condition that was tried out. -/
def tried (span : Span) (o : Outcome) : List Diagnostic :=
  if o.1.isNull then
    o.2 ++ Outcome.note span "Condition is null"
      (Text.ofString "The value of the 'if' clause must not be null.")
  else
    match o.1.convert .bool with
    | .ok _ => o.2
    | .error message => o.2 ++ badCondition span message

/-- What the condition of a loop says about an element. -/
inductive Inclusion where
  | included
  | excluded
  /-- It cannot be told, perhaps for a reason that has to be reported. -/
  | undecided (ds : List Diagnostic)

/-- What a condition says. An unknown condition of a tuple's loop is not looked at any further. -/
def inclusion (lenient : Bool) (span : Span) (v : Value) : Inclusion :=
  if v.isNull then
    .undecided (Outcome.note span "Invalid 'for' condition"
      (Text.ofString "The value of the 'if' clause must not be null."))
  else if lenient && !v.isKnown then .undecided []
  else
    match v.convert .bool with
    | .ok (.bool true) => .included
    | .ok (.bool false) => .excluded
    | .ok _ => .undecided []
    | .error message => .undecided (badCondition span message)

/-! ## Tuples -/

/-- What a loop has made so far, in reverse, and whether all of it is known. The diagnostics are
in reverse too. -/
structure Progress (α : Type) where
  made : List α
  known : Bool
  ds : List Diagnostic

namespace Progress

/-- Nothing made yet, after some diagnostics. -/
def start {α : Type} (ds : List Diagnostic) : Progress α :=
  ⟨[], true, ds.reverse⟩

/-- The same with more diagnostics. -/
def note {α : Type} (p : Progress α) (ds : List Diagnostic) : Progress α :=
  { p with ds := ds.reverse ++ p.ds }

/-- The same with something unknown, which is reported if nothing was unknown before. -/
def spoil {α : Type} (p : Progress α) (ds : List Diagnostic) : Progress α :=
  { (if p.known then p.note ds else p) with known := false }

/-- The same with one more thing made. -/
def add {α : Type} (p : Progress α) (a : α) : Progress α :=
  { p with made := a :: p.made }

/-- The outcome: what was made if all of it is known. -/
def finish {α : Type} (p : Progress α) (make : List α → Value) : Outcome :=
  (if p.known then make p.made.reverse else .anything, p.ds.reverse)

end Progress

/-- One element of a loop, where `body` says what becomes of it if it is included. -/
def visit {α : Type} (lenient : Bool) (span : Span) (condition : Element → Outcome)
    (body : Progress α → Element → Progress α) (p : Progress α) (e : Element) : Progress α :=
  let c := condition e
  let p := p.note c.2
  match inclusion lenient span c.1 with
  | .included => body p e
  | .excluded => p
  | .undecided ds => p.spoil ds

/-- A loop over the elements of an outcome, after its condition was tried out. -/
def run {α : Type} (lenient : Bool) (collectionSpan conditionSpan : Span) (collection : Outcome)
    (condition : Element → Outcome) (body : Progress α → Element → Progress α)
    (make : List α → Value) : Outcome :=
  match elements collectionSpan collection with
  | .error o => o
  | .ok es =>
    match es, tried conditionSpan (condition anyElement) with
    | some es, [] =>
      let p := es.foldl (visit lenient conditionSpan condition body) (.start collection.2)
      p.finish make
    | _, ds => (.anything, collection.2 ++ ds)

/-- The outcome of a loop that makes a tuple. -/
def tuple (collectionSpan conditionSpan : Span) (collection : Outcome)
    (value condition : Element → Outcome) : Outcome :=
  run true collectionSpan conditionSpan collection condition
    (fun p e =>
      let v := value e
      (p.note v.2).add v.1)
    .tuple

/-! ## Objects -/

/-- Puts a member into an object whose members are in order; a name that is there already gets
the new value. -/
def insertMember {α : Type} (name : Text) (a : α) : List (Text × α) → List (Text × α)
  | [] => [(name, a)]
  | (m, b) :: rest =>
    if name < m then (name, a) :: (m, b) :: rest
    else if name = m then (name, a) :: rest
    else (m, b) :: insertMember name a rest

/-- The object with some members, of which the last with a name counts. -/
def objectOf (members : List (Text × Value)) : Value :=
  let ordered := members.foldl (fun ms (name, v) => insertMember name v ms) []
  .object (ordered.map Prod.fst) (ordered.map Prod.snd)

/-- The object with some members, where those with one name are collected in a tuple. -/
def groupsOf (members : List (Text × Value)) : Value :=
  let ordered := members.foldl (fun gs (name, v) =>
    insertMember name (((gs.lookup name).getD []) ++ [v]) gs) []
  .object (ordered.map Prod.fst) (ordered.map fun (_, vs) => .tuple vs)

/-- The key that a loop gives an element, or what is wrong with it. -/
def keyOf (span : Span) (v : Value) : Except (List Diagnostic) Text :=
  if v.isNull then
    .error (Outcome.note span "Invalid object key"
      (Text.ofString "Key expression in 'for' expression must not produce a null value."))
  else if !v.isKnown then .error []
  else
    match v.convert .text with
    | .ok (.text t) => .ok t
    | .ok _ => .error []
    | .error message =>
      .error (Outcome.note span "Invalid object key"
        (Text.ofString "The key expression produced an invalid result: " ++ message ++
          Text.ofString "."))

/-- The diagnostic about a key that two elements have. -/
def duplicateKey (span : Span) (name : Text) : List Diagnostic :=
  Outcome.note span "Duplicate object key"
    (Text.ofString "Two different items produced the key " ++ name.quoted ++ Text.ofString
      (" in this 'for' expression. If duplicates are expected, use the ellipsis (...) after the " ++
        "value expression to enable grouping by key."))

/-- What becomes of an element in a loop that makes an object. -/
def addMember (group : Bool) (keySpan : Span) (key value : Element → Outcome)
    (p : Progress (Text × Value)) (e : Element) : Progress (Text × Value) :=
  let k := key e
  let p := p.note k.2
  match keyOf keySpan k.1 with
  | .error ds => p.spoil ds
  | .ok name =>
    let v := value e
    let p := p.note v.2
    if !group && (p.made.lookup name).isSome then p.note (duplicateKey keySpan name)
    else p.add (name, v.1)

/-- The outcome of a loop that makes an object. -/
def object (group : Bool) (collectionSpan keySpan conditionSpan : Span) (collection : Outcome)
    (key value condition : Element → Outcome) : Outcome :=
  run false collectionSpan conditionSpan collection condition (addMember group keySpan key value)
    (if group then groupsOf else objectOf)

/-! ## Splats -/

/-- The value for the values of a splat's elements, where `whole` is its type and what there is to
say about that: those of a list make a list, if they are of one type. -/
def splatValue (span : Span) (whole : ValueType × List Diagnostic) (vs : List Value) : Outcome :=
  match whole.1, vs with
  | .list t, [] => (.list t [], whole.2)
  | .list _, v :: rest =>
    if rest.all fun w => w.type.same v.type then (.list v.type vs, [])
    else .fault span "Invalid nested splat expressions" (Text.ofString
      ("The second level of splat expression produced elements of different types, so it isn't " ++
        "possible to construct a valid list to represent the top-level result.\n\nConsider " ++
        "using a for expression instead, to produce a tuple-typed result which can therefore have " ++
        "non-homogenous element types."))
  | _, vs => (.tuple vs, [])

/-- The outcomes of a splat on elements of which only the type is known, and the type of the
whole. -/
def splatType (each : Value → Outcome) : ValueType → ValueType × List Diagnostic
  | .list t =>
    let o := each (.ofType t)
    (.list o.1.type, o.2)
  | .tuple ts =>
    let os := ts.map fun t => each (.ofType t)
    (.tuple (os.map fun o => o.1.type), os.flatMap Prod.snd)
  | _ => (.dynamic, [])

/-- The outcome of a splat on a tuple or list. It is not null, and has as many elements. -/
def splatSequence (span : Span) (v : Value) (each : Value → Outcome) : Outcome :=
  let whole := splatType each v.type
  match elements? v with
  | none =>
    (.limited whole.1 { Limits.ofPresent true with least := v.limits.least, most := v.limits.most },
      whole.2)
  | some es =>
    let os := es.map fun e => each e.value
    match os.flatMap Prod.snd with
    | [] => splatValue span whole (os.map Prod.fst)
    | ds => (.ofType whole.1, ds)

/-- The outcome of a splat. A value that is no sequence counts as one of its own, and null as an
empty one. After a fault in the source there is nothing to apply the steps to. -/
def splat (sourceSpan eachSpan : Span) (source : Outcome) (each : Value → Outcome) : Outcome :=
  match source with
  | (v, []) =>
    let t := v.type
    if t.isTuple || t.isList then
      if v.isNull then
        .fault sourceSpan "Splat of null value" (Text.ofString
          "Splat expressions (with the * symbol) cannot be applied to null sequences.")
      else splatSequence eachSpan v each
    else if v.isNull then (.tuple [], [])
    else if t.isDynamic then (.anything, [])
    else
      let o := splatSequence eachSpan (.tuple [v]) each
      if v.isPresent then o else (.anything, o.2)
  | (_, ds) => (.anything, ds)

end Loop

end Config

end GridRobot
