import GridRobot.Config.Comparison
import GridRobot.Config.Expr
import GridRobot.Config.Outcome

/-!
# Operations and choices

An operator wants operands of a type, and operands that cannot be converted to it are reported
before faults inside the operands. A true operand settles "or" and a false one "and", so that
faults in the other one do not count; null is as good as false there. A choice brings its two
sides to a common type first, and faults in the side that is not chosen do not count.
-/

namespace GridRobot

namespace Config

namespace Operation

/-! ## Operators -/

/-- An operation that failed. -/
def failed (span : Span) (t : ValueType) (reason : String) : Outcome :=
  (.ofType t, Outcome.note span "Operation failed"
    (Text.ofString ("Error during operation: " ++ reason ++ ".")))

/-- The diagnostic about an operand that cannot be converted. -/
def badOperand (side : String) (span : Span) (message : Text) : List Diagnostic :=
  Outcome.note span "Invalid operand"
    (Text.ofString ("Unsuitable value for " ++ side ++ ": ") ++ message ++ Text.ofString ".")

/-- The diagnostics about a conversion that may have failed. -/
def conversionFaults (side : String) (span : Span) : Except Text Value → List Diagnostic
  | .ok _ => []
  | .error message => badOperand side span message

/-- The type of the operand and the result of an operator with one operand. -/
def unaryType : UnaryOp → ValueType
  | .negate => .number
  | .not => .bool

/-- The outcome of an operation on one operand. -/
def unary (span operand : Span) (op : UnaryOp) (o : Outcome) : Outcome :=
  let t := unaryType op
  let v := o.1.convert t
  match o.2 ++ conversionFaults "unary operand" operand v with
  | [] =>
    match op, v with
    | .negate, .ok (.number n) => (.number n.neg, [])
    | .not, .ok (.bool b) => (.bool !b, [])
    | _, .ok (.null _) => failed span t "argument must not be null"
    | _, _ => (.present t, [])
  | ds => (.ofType t, ds)

/-- The type of operand that an operator wants. -/
def operandType : BinaryOp → ValueType
  | .or => .bool
  | .and => .bool
  | .equal => .dynamic
  | .notEqual => .dynamic
  | _ => .number

/-- The type of the result of an operator. -/
def resultType : BinaryOp → ValueType
  | .add => .number
  | .subtract => .number
  | .multiply => .number
  | .divide => .number
  | .modulo => .number
  | _ => .bool

/-- A number that an operation gave, or why it gave none. -/
def ofNumber (span : Span) (reason : String) : Option Number → Outcome
  | some n => (.number n, [])
  | none => failed span .number reason

/-- The outcome of arithmetic on two numbers. -/
def arithmetic (span : Span) (a b : Number) : BinaryOp → Outcome
  | .add => ofNumber span "can't compute sum of opposing infinities" (a.add? b)
  | .subtract => ofNumber span "can't subtract infinity from itself" (a.sub? b)
  | .multiply => ofNumber span "can't multiply zero by infinity" (a.mul? b)
  | .divide => ofNumber span "can't divide zero by zero or infinity by infinity" (a.div? b)
  | .modulo => ofNumber span "can't use modulo with zero and infinity" (a.mod? b)
  | op => (.present (resultType op), [])

/-- The truth value of an answer that may be missing. -/
def ofAnswer : Option Bool → Outcome
  | some b => (.bool b, [])
  | none => (.present .bool, [])

/-- The outcome of an operation on operands that are not null. -/
def combine (span : Span) (op : BinaryOp) (v w : Value) : Outcome :=
  match op with
  | .less => ofAnswer (v.less? w)
  | .lessEqual => ofAnswer (v.lessEqual? w)
  | .greater => ofAnswer (w.less? v)
  | .greaterEqual => ofAnswer (w.lessEqual? v)
  | op =>
    match v, w with
    | .number a, .number b => arithmetic span a b op
    | .bool a, .bool b => (.bool (if op = .or then a || b else a && b), [])
    | _, _ => (.present (resultType op), [])

/-- The outcome of an operation whose operands are converted and have no faults. -/
def apply (span : Span) (op : BinaryOp) (v w : Value) : Outcome :=
  match op with
  | .equal => ofAnswer (v.equal? w)
  | .notEqual => ofAnswer ((v.equal? w).map (!·))
  | op =>
    if v.isNull || w.isNull then failed span (resultType op) "argument must not be null"
    else combine span op v w

/-- Whether a known value is true; null is not. -/
def isTrue? (v : Value) : Option Bool :=
  match v with
  | .bool b => some b
  | v => if v.isKnown then some false else none

/-- The outcome of a logical operation that one operand settles, whatever the other one is, where
`decisive` is the truth value that does. Where none does, an unknown operand makes the result
unknown, and faults in the other one do not count. -/
def settled? (decisive : Bool) (l r : Outcome) : Option Outcome :=
  let a := isTrue? l.1
  let b := isTrue? r.1
  if a = some decisive then some (.bool decisive, l.2)
  else if b = some decisive then some (.bool decisive, r.2)
  else if a = none then some (.present .bool, l.2)
  else if b = none then some (.present .bool, r.2)
  else none

/-- The outcome that one operand of an operator settles, if it does. -/
def early? (op : BinaryOp) (l r : Outcome) : Option Outcome :=
  match op with
  | .or => settled? true l r
  | .and => settled? false l r
  | _ => none

/-- The outcome of an operation on two operands. -/
def binary (span : Span) (op : BinaryOp) (left right : Span) (l r : Outcome) : Outcome :=
  let v := l.1.convert (operandType op)
  let w := r.1.convert (operandType op)
  match v, w with
  | .ok v, .ok w =>
    match early? op (v, l.2) (w, r.2) with
    | some o => o
    | none =>
      match l.2 ++ r.2 with
      | [] => apply span op v w
      | ds => (.ofType (resultType op), ds)
  | v, w =>
    (.ofType (resultType op), conversionFaults "left operand" left v ++
      conversionFaults "right operand" right w ++ l.2 ++ r.2)

/-! ## Choices -/

/-- The common type of the two sides of a choice. Null without a type takes the type of the other
side, and where the type of one side is not known, neither is that of the choice. -/
def choiceType? (yes no : Value) : Option ValueType :=
  if yes.isBareNull then some no.type
  else if no.isBareNull then some yes.type
  else if yes.type.isDynamic || no.type.isDynamic then some .dynamic
  else ValueType.common? [yes.type, no.type]

/-- The side that is chosen, as a value of the common type. -/
def chosen (side : String) (span : Span) (t : ValueType) (o : Outcome) : Outcome :=
  match o.1.cast t with
  | .ok v => (v, o.2)
  | .error message =>
    (.ofType t, o.2 ++ Outcome.note span "Inconsistent conditional result types"
      (Text.ofString ("The " ++ side ++ " result value has the wrong type: ") ++ message ++
        Text.ofString "."))

/-- What is known of a choice either way: a number lies between those of the two sides, and a list
or map has as many elements as one of two lists or maps of one type. -/
def eitherWay (t : ValueType) (yes no : Value) : Value :=
  let both := yes.limits.either no.limits
  match yes.type, no.type with
  | .number, .number => .limited t both
  | .list a, .list b => if a.same b then .limited t both else .vague t both.present
  | .map a, .map b => if a.same b then .limited t both else .vague t both.present
  | _, _ => .vague t both.present

/-- The outcome of a choice whose sides have a common type. -/
def choice (condition yesSpan noSpan : Span) (t : ValueType) (c yes no : Outcome) : Outcome :=
  if c.1.isNull then
    (.ofType t, c.2 ++ Outcome.note condition "Null condition" (Text.ofString
      "The condition value is null. Conditions must either be true or false."))
  else if !c.1.isKnown then
    (if yes.1.isNull && no.1.isNull then .null t else eitherWay t yes.1 no.1, c.2)
  else
    match c.1.convert .bool with
    | .ok (.bool true) => (chosen "true" yesSpan t yes).after c.2
    | .ok (.bool false) => (chosen "false" noSpan t no).after c.2
    | _ =>
      (.ofType t, c.2 ++ Outcome.note condition "Incorrect condition type"
        (Text.ofString "The condition expression must be of type bool."))

/-- The outcome of a choice. -/
def conditional (condition yesSpan noSpan : Span) (c yes no : Outcome) : Outcome :=
  match choiceType? yes.1 no.1 with
  | some t => choice condition yesSpan noSpan t c yes no
  | none =>
    .fault (yesSpan.upTo noSpan) "Inconsistent conditional result types"
      (Text.ofString "The true and false result expressions must have consistent types. " ++
        yes.1.type.disagreement no.1.type ++ Text.ofString ".")

end Operation

end Config

end GridRobot
