import GridRobot.Config.Access
import GridRobot.Config.Loop
import GridRobot.Config.Operation
import GridRobot.Text.Distance
import GridRobot.Text.Lasting

/-!
# The value of an expression

A configuration file has no variables and no functions of its own, but loops give names to the
elements they go through. `Expr.eval` gives the value of an expression where some names stand for
values, together with the diagnostics about faults on the way. Strings are brought into composed
form, so that they are equal where they read the same.
-/

namespace GridRobot

namespace Config

/-- What the names in an expression stand for: the names of each loop around it, the innermost
first, and what the splat around it goes through. -/
structure Surroundings where
  loops : List (List (Text × Value))
  item : Value

namespace Surroundings

/-- No loops and no splat. -/
def none : Surroundings :=
  ⟨[], .anything⟩

/-- Inside a loop at an element. If both names are the same, the value has it. -/
def inside (s : Surroundings) (names : LoopNames) (e : Element) : Surroundings :=
  let key := (names.key.map fun name => (name, e.key)).toList
  { s with loops := ((names.value, e.value) :: key) :: s.loops }

/-- Inside a splat at an element. -/
def visiting (s : Surroundings) (v : Value) : Surroundings :=
  { s with item := v }

/-- What a name stands for. -/
def find? (s : Surroundings) (name : Text) : Option Value :=
  s.loops.findSome? (·.lookup name)

/-- The outcome for a name that stands for nothing. -/
def unnamed (s : Surroundings) (span : Span) (name : Text) : Outcome :=
  if s.loops.isEmpty then
    .fault span "Variables not allowed" (Text.ofString "Variables may not be used here.")
  else
    .fault span "Unknown variable"
      (Text.ofString "There is no variable named " ++ name.quoted ++ Text.ofString "." ++
        Text.suggestion name (s.loops.flatMap fun l => l.map Prod.fst))

end Surroundings

namespace Eval

/-! ## Strings -/

/-- The diagnostic about a value that cannot be put into a string. -/
def badPart (span : Span) (detail : Text) : List Diagnostic :=
  Outcome.note span "Invalid template interpolation value" detail

/-- A string under construction: what is written, whether all of it is known, and diagnostics. -/
structure Draft where
  written : Text
  known : Bool
  ds : List Diagnostic

namespace Draft

/-- The draft with one more part. After a fault nothing more is written. -/
def addPart (d : Draft) (span : Span) (o : Outcome) : Draft :=
  let d := { d with ds := d.ds ++ o.2 }
  let bad := fun (detail : Text) => { d with ds := d.ds ++ badPart span detail }
  if o.1.isNull then
    bad (Text.ofString
      "The expression result is null. Cannot include a null value in a string template.")
  else if !o.1.isKnown then { d with known := false }
  else
    match o.1.convert .text with
    | .ok (.text t) => if d.known && d.ds.isEmpty then { d with written := d.written ++ t } else d
    | .ok _ => d
    | .error message => bad (Text.ofString
        "Cannot include the given value in a string template: " ++ message ++ Text.ofString ".")

/-- How many bytes of the start of a string are looked at, where the rest is not known. -/
def startLength : Nat := 128

/-- How a string begins of which only a part is known. After a fault this is in doubt. -/
def start (d : Draft) : Text :=
  if d.ds.isEmpty then Text.lasting (d.written.take startLength) else []

/-- The string. -/
def finish (d : Draft) : Outcome :=
  (if d.known then .text (Text.composed d.written)
    else .limited .text { Limits.ofPresent true with start := d.start }, d.ds)

end Draft

/-- The string that parts make. -/
def template (parts : List (Span × Outcome)) : Outcome :=
  (parts.foldl (fun d (span, o) => d.addPart span o) (⟨[], true, []⟩ : Draft)).finish

/-- The values of a tuple written one after the other, after those already written. A value that
is not known makes the whole unknown. -/
def joinOnto (span : Span) (written : Text) (ds : List Diagnostic) : List Value → Outcome
  | [] => (.text (Text.composed written), ds)
  | v :: vs =>
    match v with
    | .null _ => joinOnto span written (ds ++ badPart span (Text.ofString
        "An iteration result is null. Cannot include a null value in a string template.")) vs
    | v =>
      match v.convert .text with
      | .ok (.text t) => joinOnto span (written ++ t) ds vs
      | .ok _ => (.ofType .text, ds)
      | .error message => joinOnto span written (ds ++ badPart span (Text.ofString
          "Cannot include one of the interpolation results into the string template: " ++
            message ++ Text.ofString ".")) vs

/-- The elements of a tuple joined to a string. -/
def join (span : Span) (o : Outcome) : Outcome :=
  match o with
  | (.tuple vs, ds) => joinOnto span [] ds vs
  | (_, ds) => (.ofType .text, ds)

/-! ## Tuples and objects -/

/-- The tuple of some outcomes. -/
def tuple (os : List Outcome) : Outcome :=
  (.tuple (os.map Prod.fst), os.flatMap Prod.snd)

/-- The name that a key of an object gives, if it gives one, and diagnostics. -/
def memberName (keySpan valueSpan : Span) (key : Outcome) : Option Text × List Diagnostic :=
  if !key.2.isEmpty then (none, [])
  else if key.1.isNull then
    (none, Outcome.note valueSpan "Null value as key"
      (Text.ofString "Can't use a null value as a key."))
  else
    match key.1.convert .text with
    | .ok (.text t) => (some t, [])
    | .ok _ => (none, [])
    | .error message =>
      (none, Outcome.note keySpan "Incorrect key type"
        (Text.ofString "Can't use this value as a key: " ++ message ++ Text.ofString "."))

/-- The object with evaluated keys and values. Nothing is known of it unless all names are. -/
def object (items : List ((Span × Outcome) × (Span × Outcome))) : Outcome :=
  let members := items.map fun (k, v) => (memberName k.1 v.1 k.2, k.2.2, v.2)
  let ds := members.flatMap fun (name, keyFaults, v) => keyFaults ++ v.2 ++ name.2
  match members.mapM fun (name, _, v) => name.1.map (·, v.1) with
  | some ms => (Loop.objectOf ms, ds)
  | none => (.anything, ds)

end Eval

/-! ## Expressions -/

namespace Expr

mutual

/-- The value of an expression, with diagnostics. -/
def eval : Expr → Surroundings → Outcome
  | .literal l _, _ => (l.value, [])
  | .reference name root steps _, s =>
    match s.find? name with
    | some v => Access.walk v steps
    | none => s.unnamed root name
  | .item _, s => (s.item, [])
  | .path e steps _, s =>
    let o := eval e s
    (Access.walk o.1 steps).after o.2
  | .index e key _ brackets, s =>
    let o := eval e s
    let k := eval key s
    (Access.element brackets o.1 k.1).after (o.2 ++ k.2)
  | .splat source each _, s =>
    Loop.splat source.span each.span (eval source s) fun v => eval each (s.visiting v)
  | .call _ span, _ =>
    .fault span "Function calls not allowed" (Text.ofString "Functions may not be called here.")
  | .template parts _, s => Eval.template (evalAll parts s)
  | .wrapped e _, s => eval e s
  | .joined e, s => Eval.join e.span (eval e s)
  | .parens e _, s => eval e s
  | .unary op e sign, s => Operation.unary (sign.upTo e.span) e.span op (eval e s)
  | .binary op l r span, s =>
    Operation.binary span op l.span r.span (eval l s) (eval r s)
  | .conditional c yes no _, s =>
    Operation.conditional c.span yes.span no.span (eval c s) (eval yes s) (eval no s)
  | .tuple es _ _, s => Eval.tuple ((evalAll es s).map Prod.snd)
  | .object keys values _ _, s => Eval.object ((evalAll keys s).zip (evalAll values s))
  | .ambiguous span, _ =>
    .fault span "Ambiguous attribute key" (Text.ofString
      ("If this expression is intended to be a reference, wrap it in parentheses. If it's " ++
        "instead intended as a literal name containing periods, wrap it in quotes to create a " ++
        "string literal."))
  | .tupleLoop names c value condition _ _, s =>
    Loop.tuple c.span condition.span (eval c s) (fun e => eval value (s.inside names e))
      fun e => eval condition (s.inside names e)
  | .objectLoop names c key value condition group _ _, s =>
    Loop.object group c.span key.span condition.span (eval c s)
      (fun e => eval key (s.inside names e)) (fun e => eval value (s.inside names e))
      fun e => eval condition (s.inside names e)

/-- The values of expressions, each with its span. -/
def evalAll : List Expr → Surroundings → List (Span × Outcome)
  | [], _ => []
  | e :: es, s => (e.span, eval e s) :: evalAll es s

end

end Expr

end Config

end GridRobot
