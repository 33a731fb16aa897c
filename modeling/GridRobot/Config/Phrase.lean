import GridRobot.Config.Template
import GridRobot.Config.Token

/-!
# Reading expressions

The readers below take tokens from the front of a list and give the rest back. Inside parentheses
and brackets the ends of lines do not count; elsewhere an expression ends with its line. The
readers go as deep as expressions are nested, so a bound that grows with the number of tokens is
enough for every file.
-/

namespace GridRobot

namespace Config

namespace Phrase

/-! ## Token patterns -/

/-- The tokens from the first that counts; where lines do not count, their ends are passed
over. -/
def visible (lines : Bool) (ts : List Token) : List Token :=
  if lines then ts else ts.dropWhile fun t => t.kind = .newline

/-- The tokens after a sign that must come next, and the span of the sign. -/
def eat? (lines : Bool) (s : Sign) (ts : List Token) : Option (Span × List Token) :=
  match visible lines ts with
  | t :: rest => if t.kind = .sign s then some (t.span, rest) else none
  | [] => none

/-- The tokens after a word that must come next, where lines do not count. -/
def eatWord? (word : String) (ts : List Token) : Option (List Token) :=
  match visible false ts with
  | t :: rest => if t.kind = .identifier (Text.ofString word) then some rest else none
  | [] => none

/-- A name that must come next, where lines do not count. -/
def name? (ts : List Token) : Option (Text × List Token) :=
  match visible false ts with
  | ⟨.identifier name, _⟩ :: rest => some (name, rest)
  | _ => none

/-- The binary operator that a sign stands for. -/
def binaryOp? : Sign → Option BinaryOp
  | .or => some .or
  | .and => some .and
  | .equal => some .equal
  | .notEqual => some .notEqual
  | .less => some .less
  | .lessEqual => some .lessEqual
  | .greater => some .greater
  | .greaterEqual => some .greaterEqual
  | .plus => some .add
  | .minus => some .subtract
  | .star => some .multiply
  | .slash => some .divide
  | .percent => some .modulo
  | _ => none

/-- The expression for a word. -/
def word (name : Text) (span : Span) : Expr :=
  if name = Text.ofString "true" then .literal (.bool true) span
  else if name = Text.ofString "false" then .literal (.bool false) span
  else if name = Text.ofString "null" then .literal .null span
  else .reference name span [] span

/-- The number of an element that is written after a point. It has no point of its own. -/
def pointIndex? (numeral : Text) : Option Number :=
  if numeral.contains 46 then none else Number.read? numeral

/-- Reads the names of a loop up to the word after them. -/
def loopNames? (ts : List Token) : Option (LoopNames × List Token) := do
  let (first, ts) ← name? ts
  let (names, ts) ← match eat? false .comma ts with
    | some (_, ts) => (name? ts).map fun (second, ts) => ((⟨some first, second⟩ : LoopNames), ts)
    | none => some (⟨none, first⟩, ts)
  let ts ← eatWord? "in" ts
  some (names, ts)

/-- Reads the parts of a function's name after the first one, up to the opening parenthesis, and
gives the span of that. -/
def callOpening? (lines : Bool) : Nat → List Token → Option (Span × List Token)
  | 0, _ => none
  | n + 1, ts =>
    match eat? lines .doubleColon ts with
    | none => eat? lines .openParen ts
    | some (_, ts) =>
      match visible lines ts with
      | ⟨.identifier _, _⟩ :: ts => callOpening? lines n ts
      | _ => none

/-- Whether a function's name is being read. -/
def opensCall (lines : Bool) (ts : List Token) : Bool :=
  (eat? lines .openParen ts).isSome || (eat? lines .doubleColon ts).isSome

/-- Reads the steps of a splat after a point and a star, which are members and numbered elements
after points. -/
def pointSteps? (lines : Bool) : Nat → Expr → List Token → Option (Expr × List Token)
  | 0, _, _ => none
  | n + 1, e, ts =>
    match eat? lines .dot ts with
    | none => some (e, ts)
    | some (dot, ts) =>
      match visible lines ts with
      | ⟨.identifier name, s⟩ :: ts =>
        pointSteps? lines n (e.step (.member name (dot.upTo s)) s) ts
      | ⟨.number numeral, s⟩ :: ts =>
        match pointIndex? numeral with
        | some k => pointSteps? lines n (e.step (.element (.number k) (dot.upTo s)) s) ts
        | none => none
      | _ => none

/-! ## Expressions -/

mutual

/-- Reads an expression. -/
def expression? : Nat → Bool → List Token → Option (Expr × List Token)
  | 0, _, _ => none
  | n + 1, lines, ts => do
    let (first, ts) ← operand? n lines ts
    let (chain, ts) ← chain? n lines ts
    let e := Expr.ofChain first chain
    match eat? lines .question ts with
    | none => some (e, ts)
    | some (_, ts) =>
      let (yes, ts) ← expression? n lines ts
      let (_, ts) ← eat? lines .colon ts
      let (no, ts) ← expression? n lines ts
      some (.conditional e yes no (e.span.upTo no.span), ts)

/-- Reads operators with their second operands. -/
def chain? : Nat → Bool → List Token → Option (Expr.Chain × List Token)
  | 0, _, _ => none
  | n + 1, lines, ts =>
    match visible lines ts with
    | ⟨.sign s, _⟩ :: rest =>
      match binaryOp? s with
      | none => some ([], ts)
      | some op => do
        let (e, ts) ← operand? n lines rest
        let (chain, ts) ← chain? n lines ts
        some ((op, e) :: chain, ts)
    | _ => some ([], ts)

/-- Reads a term with what is taken out of it. -/
def operand? : Nat → Bool → List Token → Option (Expr × List Token)
  | 0, _, _ => none
  | n + 1, lines, ts => do
    let (e, ts) ← term? n lines ts
    elements? n lines e ts

/-- Reads what is taken out of an expression: members, elements, and splats, which apply what
comes after them to every element. -/
def elements? : Nat → Bool → Expr → List Token → Option (Expr × List Token)
  | 0, _, _, _ => none
  | n + 1, lines, e, ts =>
    match visible lines ts with
    | ⟨.sign .dot, dot⟩ :: rest =>
      match visible lines rest with
      | ⟨.identifier name, s⟩ :: rest =>
        elements? n lines (e.step (.member name (dot.upTo s)) s) rest
      | ⟨.number numeral, s⟩ :: rest => do
        let k ← pointIndex? numeral
        elements? n lines (e.step (.element (.number k) (dot.upTo s)) s) rest
      | ⟨.sign .star, s⟩ :: rest => do
        let marker := dot.upTo s
        let (each, rest) ← pointSteps? lines (rest.length + 1) (.item marker) rest
        elements? n lines (.splat e each marker) rest
      | _ => none
    | ⟨.sign .openBracket, opening⟩ :: rest =>
      match visible lines rest with
      | ⟨.sign .star, _⟩ :: rest => do
        let (close, ts) ← eat? lines .closeBracket rest
        let marker := opening.upTo close
        let (each, ts) ← elements? n lines (.item marker) ts
        elements? n lines (.splat e each marker) ts
      | _ => do
        let (key, ts) ← expression? n false rest
        let (close, ts) ← eat? false .closeBracket ts
        elements? n lines (e.element key opening (opening.upTo close)) ts
    | _ => some (e, ts)

/-- Reads a term. -/
def term? : Nat → Bool → List Token → Option (Expr × List Token)
  | 0, _, _ => none
  | n + 1, lines, ts =>
    match visible lines ts with
    | [] => none
    | ⟨kind, s⟩ :: rest =>
      match kind with
      | .number numeral => do
        let k ← Number.read? numeral
        some (.literal (.number k) s, rest)
      | .identifier name =>
        if opensCall lines rest then do
          let (opening, rest) ← callOpening? lines (rest.length + 1) rest
          let (close, ts) ← arguments? n rest
          some (.call (s.upTo opening) (s.upTo close), ts)
        else some (word name s, rest)
      | .sign .openParen => do
        let (e, ts) ← expression? n false rest
        let (close, ts) ← eat? false .closeParen ts
        some (.parens e (s.upTo close), ts)
      | .sign .minus => do
        let (e, ts) ← operand? n lines rest
        some (.unary .negate e s, ts)
      | .sign .bang => do
        let (e, ts) ← operand? n lines rest
        some (.unary .not e s, ts)
      | .sign .openBracket =>
        match eatWord? "for" rest with
        | some rest => tupleLoop? n s rest
        | none => do
          let (es, close, ts) ← tuple? n rest
          some (.tuple es s (s.upTo close), ts)
      | .sign .openBrace =>
        match eatWord? "for" rest with
        | some rest => objectLoop? n s rest
        | none => do
          let (keys, values, close, ts) ← object? n rest
          some (.object keys values s (s.upTo close), ts)
      | .openQuote => do
        let (pieces, close, ts) ← pieces? n .closeQuote rest
        let e ← Template.expr? false s close pieces
        some (e, ts)
      | .openHeredoc flush => do
        let (pieces, close, ts) ← pieces? n .closeHeredoc rest
        let e ← Template.expr? flush s close pieces
        some (e, ts)
      | _ => none

/-- Reads the arguments of a call up to its closing parenthesis, and gives the span of that. -/
def arguments? : Nat → List Token → Option (Span × List Token)
  | 0, _ => none
  | n + 1, ts =>
    match eat? false .closeParen ts with
    | some close => some close
    | none => do
      let (_, ts) ← expression? n false ts
      match eat? false .closeParen ts with
      | some close => some close
      | none =>
        match eat? false .ellipsis ts with
        | some (_, ts) => eat? false .closeParen ts
        | none =>
          let (_, ts) ← eat? false .comma ts
          arguments? n ts

/-- Reads the elements of a list up to its closing bracket. -/
def tuple? : Nat → List Token → Option (List Expr × Span × List Token)
  | 0, _ => none
  | n + 1, ts =>
    match eat? false .closeBracket ts with
    | some (s, ts) => some ([], s, ts)
    | none => do
      let (e, ts) ← expression? n false ts
      match eat? false .closeBracket ts with
      | some (s, ts) => some ([e], s, ts)
      | none =>
        let (_, ts) ← eat? false .comma ts
        let (es, s, ts) ← tuple? n ts
        some (e :: es, s, ts)

/-- Reads the items of an object up to its closing brace: keys, values, and the span of the
brace. Items are divided by commas or by the ends of lines. A key in parentheses is an
expression; any other may be a bare name. -/
def object? : Nat → List Token → Option (List Expr × List Expr × Span × List Token)
  | 0, _ => none
  | n + 1, ts =>
    match visible false ts with
    | ⟨.sign .closeBrace, s⟩ :: ts => some ([], [], s, ts)
    | ts => do
      let inParens := (eat? true .openParen ts).isSome
      let (key, ts) ← expression? n true ts
      let key := if inParens then key else key.asKey
      let (_, ts) ← (eat? true .assign ts).or (eat? true .colon ts)
      let (value, ts) ← expression? n true ts
      match ts with
      | ⟨.sign .closeBrace, s⟩ :: ts => some ([key], [value], s, ts)
      | ⟨.sign .comma, _⟩ :: ts =>
        let (keys, values, s, ts) ← object? n ts
        some (key :: keys, value :: values, s, ts)
      | ⟨.newline, _⟩ :: ts =>
        let (keys, values, s, ts) ← object? n ts
        some (key :: keys, value :: values, s, ts)
      | _ => none

/-- Reads the condition of a loop, which may be missing. -/
def loopCondition? : Nat → Span → List Token → Option (Expr × List Token)
  | 0, _, _ => none
  | n + 1, s, ts =>
    match eatWord? "if" ts with
    | some ts => expression? n false ts
    | none => some (.literal (.bool true) s, ts)

/-- Reads a loop that makes a tuple, up to the closing bracket. -/
def tupleLoop? : Nat → Span → List Token → Option (Expr × List Token)
  | 0, _, _ => none
  | n + 1, opening, ts => do
    let (names, ts) ← loopNames? ts
    let (collection, ts) ← expression? n false ts
    let (_, ts) ← eat? false .colon ts
    let (value, ts) ← expression? n false ts
    let (condition, ts) ← loopCondition? n opening ts
    let (close, ts) ← eat? false .closeBracket ts
    some (.tupleLoop names collection value condition opening (opening.upTo close), ts)

/-- Reads a loop that makes an object, up to the closing brace. -/
def objectLoop? : Nat → Span → List Token → Option (Expr × List Token)
  | 0, _, _ => none
  | n + 1, opening, ts => do
    let (names, ts) ← loopNames? ts
    let (collection, ts) ← expression? n false ts
    let (_, ts) ← eat? false .colon ts
    let (key, ts) ← expression? n false ts
    let (_, ts) ← eat? false .arrow ts
    let (value, ts) ← expression? n false ts
    let (group, ts) := match eat? false .ellipsis ts with
      | some (_, ts) => (true, ts)
      | none => (false, ts)
    let (condition, ts) ← loopCondition? n opening ts
    let (close, ts) ← eat? false .closeBrace ts
    some (.objectLoop names collection key value condition group opening (opening.upTo close), ts)

/-- Reads what a directive says. -/
def directive? : Nat → List Token → Option (Directive × List Token)
  | 0, _ => none
  | n + 1, ts => do
    let (word, ts) ← name? ts
    if word = Text.ofString "if" then
      let (c, ts) ← expression? n false ts
      some (.branch c, ts)
    else if word = Text.ofString "else" then some (.otherwise, ts)
    else if word = Text.ofString "endif" then some (.endBranch, ts)
    else if word = Text.ofString "for" then
      let (names, ts) ← loopNames? ts
      let (c, ts) ← expression? n false ts
      some (.loop names c, ts)
    else if word = Text.ofString "endfor" then some (.endLoop, ts)
    else none

/-- Reads the pieces of a template up to its closing delimiter, and gives the span of that. -/
def pieces? : Nat → TokenKind → List Token → Option (List Piece × Span × List Token)
  | 0, _, _ => none
  | n + 1, closing, ts =>
    match ts with
    | [] => none
    | ⟨kind, s⟩ :: ts =>
      if kind = closing then some ([], s, ts)
      else
        match kind with
        | .quoted raw => do
          let t ← Template.unescape? raw
          let (rest, close, ts) ← pieces? n closing ts
          some (.text t s :: rest, close, ts)
        | .verbatim raw => do
          let (rest, close, ts) ← pieces? n closing ts
          some (.text raw s :: rest, close, ts)
        | .openSequence before => do
          let (e, ts) ← expression? n false ts
          match visible false ts with
          | ⟨.closeSequence after, _⟩ :: ts =>
            let (rest, close, ts) ← pieces? n closing ts
            some (.value e before after :: rest, close, ts)
          | _ => none
        | .openDirective before => do
          let (d, ts) ← directive? n ts
          match visible false ts with
          | ⟨.closeSequence after, s'⟩ :: ts =>
            let (rest, close, ts) ← pieces? n closing ts
            some (.directive d (s.upTo s') before after :: rest, close, ts)
          | _ => none
        | _ => none

end

end Phrase

end Config

end GridRobot
