import GridRobot.Config.Place
import GridRobot.Number.Basic

/-!
# Expressions of a configuration file

An expression knows its span in the file. A diagnostic about its value points at `Expr.start`,
which is a shorter span at its beginning: the first operand of an operation, the opening bracket
of a list, the text of a string inside its quotes.

Operators of one precedence associate to the left. `Expr.ofChain` builds the expression for a
sequence of operands with operators between them.
-/

namespace GridRobot

namespace Config

/-- Operators with one operand. -/
inductive UnaryOp where
  | negate
  | not
  deriving DecidableEq, Repr, Inhabited

/-- Operators with two operands. -/
inductive BinaryOp where
  | or
  | and
  | equal
  | notEqual
  | less
  | lessEqual
  | greater
  | greaterEqual
  | add
  | subtract
  | multiply
  | divide
  | modulo
  deriving DecidableEq, Repr, Inhabited

/-- Values that stand for themselves. -/
inductive Literal where
  | null
  | bool (b : Bool)
  | number (n : Number)
  | text (t : Text)
  deriving DecidableEq, Repr

/-- A step into a value: to a member by its name, or to an element by a key. -/
inductive Step where
  | member (name : Text) (span : Span)
  | element (key : Literal) (span : Span)
  deriving DecidableEq, Repr

/-- The names that a loop gives to the keys and the values of what it goes through. -/
structure LoopNames where
  key : Option Text
  value : Text
  deriving DecidableEq, Repr

/-- An expression. -/
inductive Expr where
  | literal (l : Literal) (span : Span)
  /-- A name, and steps into what it stands for. -/
  | reference (name : Text) (root : Span) (steps : List Step) (span : Span)
  /-- What the splat around it goes through. -/
  | item (span : Span)
  /-- Steps into a value. -/
  | path (e : Expr) (steps : List Step) (span : Span)
  /-- An element at a key that has to be found out first. -/
  | index (collection key : Expr) (opening brackets : Span)
  /-- The same steps into every element of a value. -/
  | splat (source each : Expr) (marker : Span)
  | call (opening span : Span)
  /-- A string made of parts. -/
  | template (parts : List Expr) (span : Span)
  /-- A string that is a single interpolation, which keeps the type of its value. -/
  | wrapped (e : Expr) (span : Span)
  /-- The elements of a tuple, joined to a string. -/
  | joined (e : Expr)
  | parens (e : Expr) (span : Span)
  | unary (op : UnaryOp) (e : Expr) (sign : Span)
  | binary (op : BinaryOp) (left right : Expr) (span : Span)
  | conditional (condition yes no : Expr) (span : Span)
  | tuple (elements : List Expr) (opening span : Span)
  | object (keys values : List Expr) (opening span : Span)
  /-- A key of an object that may be meant as a name or as a reference. -/
  | ambiguous (span : Span)
  /-- A tuple made by a loop. -/
  | tupleLoop (names : LoopNames) (collection value condition : Expr) (opening span : Span)
  /-- An object made by a loop; `group` tells whether values with one key are collected. -/
  | objectLoop (names : LoopNames) (collection key value condition : Expr) (group : Bool)
      (opening span : Span)

namespace Expr

/-- The span of an expression. -/
def span : Expr → Span
  | literal _ s => s
  | reference _ _ _ s => s
  | item s => s
  | path _ _ s => s
  | index e _ _ brackets => e.span.upTo brackets
  | splat source each _ => source.span.upTo each.span
  | call _ s => s
  | template _ s => s
  | wrapped _ s => s
  | joined e => e.span
  | parens _ s => s
  | unary _ e sign => sign.upTo e.span
  | binary _ _ _ s => s
  | conditional _ _ _ s => s
  | tuple _ _ s => s
  | object _ _ _ s => s
  | ambiguous s => s
  | tupleLoop _ _ _ _ _ s => s
  | objectLoop _ _ _ _ _ _ _ s => s

/-- The span at which diagnostics about the value of an expression point. -/
def start : Expr → Span
  | literal _ s => s
  | reference _ _ _ s => s
  | item s => s
  | path _ _ s => s
  | index _ _ opening _ => opening
  | splat _ _ marker => marker
  | call opening _ => opening
  | template (e :: _) _ => e.start
  | template [] s => s
  | wrapped _ s => s
  | joined e => e.start
  | parens e _ => e.start
  | unary _ _ sign => sign
  | binary _ l _ _ => l.start
  | conditional c _ _ _ => c.start
  | tuple _ opening _ => opening
  | object _ _ opening _ => opening
  | ambiguous s => s
  | tupleLoop _ _ _ _ opening _ => opening
  | objectLoop _ _ _ _ _ _ opening _ => opening

/-- An expression with one more step into its value. -/
def step (e : Expr) (s : Step) (stepSpan : Span) : Expr :=
  match e with
  | reference name root steps span => reference name root (steps ++ [s]) (span.upTo stepSpan)
  | path e steps span => path e (steps ++ [s]) (span.upTo stepSpan)
  | e => path e [s] (e.span.upTo stepSpan)

/-- The expression for an element at a key in brackets. A key that stands for itself makes a step
into the value. -/
def element (e key : Expr) (opening brackets : Span) : Expr :=
  match key with
  | literal l _ => e.step (.element l brackets) brackets
  | template [literal (.text t) _] _ => e.step (.element (.text t) brackets) brackets
  | key => index e key opening brackets

/-- The expression for a key of an object. A bare word is a name, whatever else it could mean, but
one with steps after it could also be meant as a reference. -/
def asKey (e : Expr) : Expr :=
  match e with
  | reference name _ [] s => literal (.text name) s
  | reference _ _ _ s => ambiguous s
  | literal .null s => literal (.text (Text.ofString "null")) s
  | literal (.bool true) s => literal (.text (Text.ofString "true")) s
  | literal (.bool false) s => literal (.text (Text.ofString "false")) s
  | e => e

/-! ## Precedence -/

/-- The operators by precedence, the weakest first. -/
def levels : List (List BinaryOp) := [
  [.or], [.and], [.equal, .notEqual], [.less, .lessEqual, .greater, .greaterEqual],
  [.add, .subtract], [.multiply, .divide, .modulo]]

/-- Operands, each with the operator before it. -/
abbrev Chain := List (BinaryOp × Expr)

/-- The expression for an operation on two operands. -/
def operation (op : BinaryOp) (l r : Expr) : Expr :=
  binary op l r (l.span.upTo r.span)

/-- Divides a chain at the operators of one level: what comes before the first of them, and each
of them with its operand and what comes after that. -/
def divide (level : List BinaryOp) : Chain → Chain × List (BinaryOp × Expr × Chain)
  | [] => ([], [])
  | (op, e) :: rest =>
    let (first, groups) := divide level rest
    if level.contains op then ([], (op, e, first) :: groups) else ((op, e) :: first, groups)

/-- The expression for an operand and a chain after it that holds operators of given levels
only. -/
def ofLevels : List (List BinaryOp) → Expr → Chain → Expr
  | [], e, _ => e
  | level :: stronger, e, chain =>
    let (first, groups) := divide level chain
    groups.foldl (fun left (op, e, chain) => operation op left (ofLevels stronger e chain))
      (ofLevels stronger e first)

/-- The expression for an operand and a chain after it. -/
def ofChain (e : Expr) (chain : Chain) : Expr :=
  ofLevels levels e chain

end Expr

end Config

end GridRobot
