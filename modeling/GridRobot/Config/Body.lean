import GridRobot.Config.Phrase

/-!
# Bodies

A body is a list of attributes and blocks, and the file as a whole is one. An attribute ends with
its line; a block has labels and a body of its own between braces, and a block that opens and
closes on one line holds one attribute at most. No body may define an attribute twice.

The readers below take tokens from the front of a list and give the rest back. They go as deep as
the expressions and blocks are nested, so a bound that grows with the number of tokens is enough
for every file; `Body.read?` sets it.
-/

namespace GridRobot

namespace Config

/-- An attribute of a body. -/
structure Attribute where
  name : Text
  nameSpan : Span
  value : Expr

/-- An item of a body. -/
inductive Item where
  | attribute (a : Attribute)
  | block (type : Text) (typeSpan : Span) (labels : List Span) (body : List Item)

/-- The items of a file or of a block. -/
abbrev Body := List Item

namespace Body

/-! ## Items -/

/-- Reads a quoted label after its opening quote, and gives the span of the closing one. -/
def label? : List Token → Option (Span × List Token)
  | ⟨.closeQuote, s⟩ :: ts => some (s, ts)
  | ⟨.quoted raw, _⟩ :: ts => if (Template.unescape? raw).isSome then label? ts else none
  | _ => none

/-- Reads the labels of a block up to its opening brace. -/
def labels? : Nat → List Token → Option (List Span × List Token)
  | 0, _ => none
  | n + 1, ts =>
    match ts with
    | ⟨.sign .openBrace, _⟩ :: ts => some ([], ts)
    | ⟨.identifier _, s⟩ :: ts => do
      let (spans, ts) ← labels? n ts
      some (s :: spans, ts)
    | ⟨.openQuote, s⟩ :: ts => do
      let (close, ts) ← label? ts
      let (spans, ts) ← labels? n ts
      some (s.upTo close :: spans, ts)
    | _ => none

/-- The tokens after the end of a line, which the end of the file also is. -/
def endLine? : List Token → Option (List Token)
  | [] => some []
  | t :: ts => if t.kind = .newline then some ts else none

/-- The names of the attributes in a body. -/
def names (b : Body) : List Text :=
  b.filterMap fun
    | .attribute a => some a.name
    | .block _ _ _ _ => none

/-- A body that defines no attribute twice. -/
def distinct? (b : Body) : Option Body :=
  if b.names.Nodup then some b else none

mutual

/-- Reads items up to the end of the file or, inside a block, its closing brace. -/
def items? : Nat → Bool → List Token → Option (List Item × List Token)
  | 0, _, _ => none
  | n + 1, inside, ts =>
    match ts with
    | [] => if inside then none else some ([], [])
    | ⟨.newline, _⟩ :: ts => items? n inside ts
    | ⟨.sign .closeBrace, _⟩ :: ts => if inside then some ([], ts) else none
    | ⟨.identifier name, s⟩ :: ts => do
      let (i, ts) ← item? n name s ts
      let (is, ts) ← items? n inside ts
      some (i :: is, ts)
    | _ => none

/-- Reads an item after its name. -/
def item? : Nat → Text → Span → List Token → Option (Item × List Token)
  | 0, _, _, _ => none
  | n + 1, name, s, ts =>
    match Phrase.eat? true .assign ts with
    | some (_, ts) => do
      let (e, ts) ← Phrase.expression? n true ts
      let ts ← endLine? ts
      some (.attribute ⟨name, s, e⟩, ts)
    | none => do
      let (labels, ts) ← labels? n ts
      let (body, ts) ← blockBody? n ts
      let ts ← endLine? ts
      some (.block name s labels body, ts)

/-- Reads the body of a block after its opening brace. -/
def blockBody? : Nat → List Token → Option (Body × List Token)
  | 0, _ => none
  | n + 1, ts =>
    match ts with
    | ⟨.identifier name, s⟩ :: ts => do
      let (_, ts) ← Phrase.eat? true .assign ts
      let (e, ts) ← Phrase.expression? n true ts
      let (_, ts) ← Phrase.eat? true .closeBrace ts
      some ([.attribute ⟨name, s, e⟩], ts)
    | ts => do
      let (body, ts) ← items? n true ts
      let body ← distinct? body
      some (body, ts)

end

/-- The body that a text is, if it is one. -/
def read? (t : Text) : Option Body := do
  let ts ← scan t
  let (body, _) ← items? (8 * (ts.length + 1)) false ts
  distinct? body

end Body

end Config

end GridRobot
