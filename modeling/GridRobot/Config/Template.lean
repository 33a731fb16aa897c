import GridRobot.Config.Expr
import GridRobot.Text.Blank

/-!
# Templates

Strings and heredocs are templates: text with interpolations and directives in it. This module
says what becomes of them. Inside quotes escapes are resolved, an interpolation or directive may
ask for the white space beside it to be dropped, and a heredoc may ask for the indentation common
to its lines to be dropped. Directives choose between parts of the template or repeat one of them.
What is left is an expression: `Template.expr?`.
-/

namespace GridRobot

namespace Config

/-- What a directive says. -/
inductive Directive where
  | branch (condition : Expr)
  | otherwise
  | endBranch
  | loop (names : LoopNames) (collection : Expr)
  | endLoop

/-- A piece of a template. Interpolations and directives may drop white space before and after
them. -/
inductive Piece where
  | text (t : Text) (span : Span)
  | value (e : Expr) (trimBefore trimAfter : Bool)
  | directive (d : Directive) (span : Span) (trimBefore trimAfter : Bool)

namespace Template

/-! ## Escapes -/

/-- The value of a hexadecimal digit. -/
def hexValue? (b : UInt8) : Option Nat :=
  if Text.isDigit b then some (Text.digitValue b)
  else if Text.within 97 102 b then some (b.toNat - 87)
  else if Text.within 65 70 b then some (b.toNat - 55)
  else none

/-- The value of hexadecimal digits. -/
def hexNumber? (digits : Text) : Option Nat :=
  digits.foldlM (fun n b => (hexValue? b).map (16 * n + ·)) 0

/-- The character with a code point in hexadecimal digits. -/
def coded? (width : Nat) (t : Text) : Option Text :=
  let digits := t.take width
  if digits.length < width then none
  else (hexNumber? digits).bind fun n =>
    if n.isValidChar then some (Text.ofChar (Char.ofNat n)) else none

/-- The text that an escape stands for: the byte after the backslash, and the text after that.
Gives also how much of that text belongs to the escape. -/
def escape? (b : UInt8) (t : Text) : Option (Text × Nat) :=
  if b = 110 then some ([10], 0)
  else if b = 114 then some ([13], 0)
  else if b = 116 then some ([9], 0)
  else if b = 34 then some ([34], 0)
  else if b = 92 then some ([92], 0)
  else if b = 117 then (coded? 4 t).map (·, 4)
  else if b = 85 then (coded? 8 t).map (·, 8)
  else none

/-- Text with its escapes resolved, put after text already read in reverse. -/
def unescapeOnto (read : Text) : Text → Option Text
  | [] => some read.reverse
  | b :: t =>
    if b = 92 then
      match t with
      | [] => none
      | c :: t =>
        match escape? c t with
        | none => none
        | some (plain, n) => unescapeOnto (plain.reverse ++ read) (t.drop n)
    else unescapeOnto (b :: read) t
termination_by t => t.length
decreasing_by all_goals simp only [List.length_cons, List.length_drop]; omega

/-- Text between quotes with its escapes resolved. -/
def unescape? (t : Text) : Option Text :=
  unescapeOnto [] t

/-! ## White space beside interpolations and directives -/

/-- Whether the next piece drops white space before it. -/
def trimsBefore : List Piece → Bool
  | .value _ trim _ :: _ => trim
  | .directive _ _ trim _ :: _ => trim
  | _ => false

/-- The pieces without the white space that is dropped beside them, where `trim` tells whether the
one before drops any. -/
def trimmed (trim : Bool) : List Piece → List Piece
  | [] => []
  | .text t s :: rest =>
    let t := if trim then t.trimLeft else t
    let t := if trimsBefore rest then t.trimRight else t
    .text t s :: trimmed false rest
  | .value e before after :: rest => .value e before after :: trimmed after rest
  | .directive d s before after :: rest => .directive d s before after :: trimmed after rest

/-! ## Indentation -/

/-- The white space at the start of a text, in clusters. -/
def indent (t : Text) : Nat :=
  (Text.clusters (t.take (t.length - t.trimLeft.length))).length

/-- Whether a text is a blank line. -/
def isBlankLine (t : Text) : Bool :=
  t.trimLeft.isEmpty && t.getLast? = some 10

/-- Each piece with its indentation, if it begins a line that counts. -/
def indents (lineStart : Bool) : List Piece → List (Piece × Option Nat)
  | [] => []
  | .text t s :: rest =>
    let ended := t.getLast? = some 10
    let depth := if lineStart && !isBlankLine t then some (indent t) else none
    (.text t s, depth) :: indents ended rest
  | p :: rest => (p, if lineStart then some 0 else none) :: indents false rest

/-- A piece without its first `n` clusters, if it begins a line that counts. -/
def outdent (n : Nat) : Piece × Option Nat → Piece
  | (.text t s, some _) =>
    .text ((Text.clusters t).drop n).flatten
      { s with start := { s.start with column := s.start.column + n } }
  | (p, _) => p

/-- The pieces of a heredoc without the indentation that its lines have in common. -/
def flushed (pieces : List Piece) : List Piece :=
  let marked := indents true pieces
  match (marked.filterMap Prod.snd).min? with
  | none => pieces
  | some n => marked.map (outdent n)

/-! ## The expression -/

/-- The pieces with neighbouring texts made one. -/
def melded : List Piece → List Piece
  | [] => []
  | .text t s :: rest =>
    match melded rest with
    | .text t' s' :: rest => .text (t ++ t') (s.upTo s') :: rest
    | rest => .text t s :: rest
  | p :: rest => p :: melded rest

/-- The parts of a template with something in them: nothing is an empty text at a place. -/
def filled (parts : List Expr) (place : Place) : List Expr :=
  if parts.isEmpty then [.literal (.text []) ⟨place, place⟩] else parts

/-- The string that some parts make. -/
def ofParts (parts : List Expr) : Expr :=
  let first := (parts.head?.map Expr.span).getD default
  let last := (parts.getLast?.map Expr.span).getD default
  .template parts (first.upTo last)

/-- The choice that a directive makes, up to the directive that ends it. -/
def chosen (condition : Expr) (opening closing : Span) (yes no : List Expr) : Expr :=
  .conditional condition (ofParts (filled yes opening.stop)) (ofParts (filled no closing.start))
    (opening.upTo closing)

/-- What a directive repeats, up to the directive that ends it. -/
def repeated (names : LoopNames) (collection : Expr) (opening closing : Span)
    (body : List Expr) : Expr :=
  let always := Expr.literal (.bool true) opening
  .joined (.tupleLoop names collection (ofParts (filled body opening.stop)) always opening
    (opening.upTo closing))

/-- Reads expressions up to the end or to a directive that ends another. -/
def parts? : Nat → List Piece → Option (List Expr × List Piece)
  | 0, _ => none
  | n + 1, pieces =>
    match pieces with
    | [] => some ([], [])
    | .text t s :: rest => do
      let (es, rest) ← parts? n rest
      some (.literal (.text t) s :: es, rest)
    | .value e _ _ :: rest => do
      let (es, rest) ← parts? n rest
      some (e :: es, rest)
    | .directive (.branch c) opening _ _ :: rest => do
      let (yes, rest) ← parts? n rest
      let (no, rest) ← match rest with
        | .directive .otherwise _ _ _ :: rest => parts? n rest
        | rest => some ([], rest)
      match rest with
      | .directive .endBranch closing _ _ :: rest =>
        let (es, rest) ← parts? n rest
        some (chosen c opening closing yes no :: es, rest)
      | _ => none
    | .directive (.loop names c) opening _ _ :: rest => do
      let (body, rest) ← parts? n rest
      match rest with
      | .directive .endLoop closing _ _ :: rest =>
        let (es, rest) ← parts? n rest
        some (repeated names c opening closing body :: es, rest)
      | _ => none
    | pieces => some ([], pieces)

/-- The expression for a template between two delimiters, if its directives match. A template
without anything in it is an empty text after its closing delimiter. -/
def expr? (flush : Bool) (opening closing : Span) (pieces : List Piece) : Option Expr :=
  let pieces := trimmed false pieces
  let pieces := melded (if flush then flushed pieces else pieces)
  let whole := opening.upTo closing
  match pieces with
  | [.value e _ _] => some (.wrapped e whole)
  | pieces =>
    match parts? (pieces.length + 1) pieces with
    | some (es, []) => some (.template (filled es closing.stop) whole)
    | _ => none

end Template

end Config

end GridRobot
