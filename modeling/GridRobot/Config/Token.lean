import GridRobot.Config.Place
import GridRobot.Text.Blank
import GridRobot.Text.Identifier

/-!
# Tokens of a configuration file

The text of a configuration file is divided into tokens. Inside a quoted string or a heredoc
other rules hold than outside, and an interpolation or directive inside those goes back to the
ordinary rules until its closing brace; `Mode` tells in which of them the scanner is, and a stack
of modes what it returns to. `scan` fails on text that holds anything that is no token.

A comment gives no token, except that one which ends with its line stands for the end of that
line.
-/

namespace GridRobot

namespace Config

/-- Signs that stand for themselves. -/
inductive Sign where
  | openParen
  | closeParen
  | openBracket
  | closeBracket
  | openBrace
  | closeBrace
  | dot
  | comma
  | ellipsis
  | question
  | colon
  | doubleColon
  | assign
  | arrow
  | plus
  | minus
  | star
  | slash
  | percent
  | bang
  | equal
  | notEqual
  | less
  | lessEqual
  | greater
  | greaterEqual
  | and
  | or
  deriving DecidableEq, Repr, Inhabited

/-- The kinds of tokens. -/
inductive TokenKind where
  | identifier (name : Text)
  | number (numeral : Text)
  | sign (s : Sign)
  | newline
  | openQuote
  | closeQuote
  /-- The start of a heredoc; `flush` tells whether common indentation is dropped. -/
  | openHeredoc (flush : Bool)
  | closeHeredoc
  /-- Text inside quotes, with its escapes. -/
  | quoted (raw : Text)
  /-- Text inside a heredoc. -/
  | verbatim (raw : Text)
  /-- The start of an interpolation; `trim` tells whether white space before it is dropped. -/
  | openSequence (trim : Bool)
  /-- The start of a directive; `trim` tells whether white space before it is dropped. -/
  | openDirective (trim : Bool)
  /-- The end of either; `trim` tells whether white space after it is dropped. -/
  | closeSequence (trim : Bool)
  deriving DecidableEq, Repr, Inhabited

/-- A token. -/
structure Token where
  kind : TokenKind
  span : Span
  deriving DecidableEq, Repr, Inhabited

/-- The rules that the scanner follows. -/
inductive Mode where
  /-- The ordinary rules inside an interpolation or directive, below some open braces. -/
  | sequence (braces : Nat)
  | quoted
  /-- The rules for a heredoc with an end marker; `lineStart` tells whether a line begins. -/
  | heredoc (marker : Text) (lineStart : Bool)
  deriving DecidableEq, Repr, Inhabited

/-- What a step of the scanner finds: perhaps a token, how many bytes belong to it after the
first, and the modes that hold from there on. -/
structure Scanned where
  kind : Option TokenKind
  more : Nat
  modes : List Mode
  deriving DecidableEq, Repr, Inhabited

/-! ## Ordinary rules -/

/-- How many bytes at the start satisfy a test. -/
def runLength (p : UInt8 → Bool) (t : Text) : Nat :=
  (t.takeWhile p).length

/-- Whether a text begins with some characters. -/
def beginsWith (s : String) (t : Text) : Bool :=
  (Text.ofString s).isPrefixOf t

/-- How many bytes the form at the start of `b :: t` has after its first, if it can start a name. -/
def nameStart? (b : UInt8) (t : Text) : Option Nat :=
  if b = '_'.toUInt8 then some 0
  else ((Form.first? b t).filter Form.startsIdentifier).map Form.more

/-- How many bytes the form at the start of `b :: t` has after its first, if it can go on a name. -/
def nameFurther? (b : UInt8) (t : Text) : Option Nat :=
  if b = '-'.toUInt8 then some 0
  else ((Form.first? b t).filter Form.continuesIdentifier).map Form.more

/-- How many bytes go on a name at the start of a text, added to `n`. -/
def nameLength (n : Nat) : Text → Nat
  | [] => n
  | b :: t =>
    match nameFurther? b t with
    | some k => nameLength (n + k + 1) (t.drop k)
    | none => n
termination_by t => t.length
decreasing_by simp only [List.length_cons, List.length_drop]; omega

/-- How many bytes go on a numeral after its first digit, where `read` have been read and the last
that is no point was number `kept`. An exponent has a letter `e` of either case, perhaps a sign,
and a digit. -/
def numeralLength (read kept : Nat) : Text → Nat
  | [] => kept
  | 0x65 :: t => exponentLength read kept t
  | 0x45 :: t => exponentLength read kept t
  | b :: t =>
    if Text.isDigit b then numeralLength (read + 1) (read + 1) t
    else if b = '.'.toUInt8 then numeralLength (read + 1) kept t
    else kept
where
  /-- Goes on after the letter of an exponent. -/
  exponentLength (read kept : Nat) : Text → Nat
    | 0x2B :: d :: t => if Text.isDigit d then numeralLength (read + 3) (read + 3) t else kept
    | 0x2D :: d :: t => if Text.isDigit d then numeralLength (read + 3) (read + 3) t else kept
    | d :: t => if Text.isDigit d then numeralLength (read + 2) (read + 2) t else kept
    | [] => kept

/-- How many bytes a comment has after its first slash, up to the star and slash that end it. -/
def blockCommentLength? (read : Nat) : Text → Option Nat
  | 0x2A :: 0x2F :: _ => some (read + 2)
  | _ :: t => blockCommentLength? (read + 1) t
  | [] => none

/-- The signs, the longer before the shorter. -/
def signs : List (Text × Sign) :=
  [("...", Sign.ellipsis), ("==", .equal), ("=>", .arrow), ("!=", .notEqual), ("<=", .lessEqual),
    (">=", .greaterEqual), ("&&", .and), ("||", .or), ("::", .doubleColon), ("(", .openParen),
    (")", .closeParen), ("[", .openBracket), ("]", .closeBracket), (".", .dot), (",", .comma),
    ("?", .question), (":", .colon), ("=", .assign), ("+", .plus), ("-", .minus), ("*", .star),
    ("/", .slash), ("%", .percent), ("!", .bang), ("<", .less), (">", .greater)].map
      fun (spelling, sign) => (Text.ofString spelling, sign)

/-- The sign at the start of a text, with its length. -/
def sign? (t : Text) : Option (Sign × Nat) :=
  (signs.find? fun (spelling, _) => spelling.isPrefixOf t).map fun (spelling, s) =>
    (s, spelling.length)

/-- A comment that runs to the end of its line. -/
def lineComment (modes : List Mode) (t : Text) : Scanned :=
  let n := runLength (· ≠ '\n'.toUInt8) t
  if (t.drop n).isEmpty then ⟨none, n, modes⟩ else ⟨some .newline, n + 1, modes⟩

/-- How many bytes end a line at the start. -/
def lineEnding (t : Text) : Nat :=
  if beginsWith "\n" t then 1 else if beginsWith "\r\n" t then 2 else 0

/-- How many bytes a name at the start of a text has. -/
def wholeNameLength (t : Text) : Nat :=
  match t with
  | [] => 0
  | b :: t =>
    match nameStart? b t with
    | some k => nameLength (k + 1) (t.drop k)
    | none => 0

/-- The start of a heredoc after its first sign `<`. -/
def openHeredoc? (modes : List Mode) (t : Text) : Option Scanned :=
  let flush := beginsWith "<-" t
  let intro := if flush then 2 else 1
  let name := t.drop intro
  let n := wholeNameLength name
  let ending := lineEnding (name.drop n)
  if beginsWith "<" t && 0 < n && 0 < ending then
    some ⟨some (.openHeredoc flush), intro + n + ending, .heredoc (name.take n) true :: modes⟩
  else none

/-- The modes after an opening brace. -/
def afterOpenBrace : List Mode → List Mode
  | .sequence n :: modes => .sequence (n + 1) :: modes
  | modes => modes

/-- The step for a closing brace, which may close an interpolation. -/
def closeBrace : List Mode → Scanned
  | .sequence 0 :: modes => ⟨some (.closeSequence false), 0, modes⟩
  | .sequence (n + 1) :: modes => ⟨some (.sign .closeBrace), 0, .sequence n :: modes⟩
  | modes => ⟨some (.sign .closeBrace), 0, modes⟩

/-- The step for a closing brace after a tilde. -/
def closeTrimming? : List Mode → Option Scanned
  | .sequence 0 :: modes => some ⟨some (.closeSequence true), 1, modes⟩
  | _ => none

/-- Whether a byte is a space or a tab. -/
def isGap (b : UInt8) : Bool :=
  b = ' '.toUInt8 || b = '\t'.toUInt8

/-- The step for what is no name at the start of `b :: t`. -/
def otherStep? (modes : List Mode) (b : UInt8) (t : Text) : Option Scanned :=
  if b = '\n'.toUInt8 then some ⟨some .newline, 0, modes⟩
  else if b = '\r'.toUInt8 then
    if beginsWith "\n" t then some ⟨some .newline, 1, modes⟩ else none
  else if b = '#'.toUInt8 then some (lineComment modes t)
  else if b = '/'.toUInt8 && beginsWith "/" t then some (lineComment modes t)
  else if b = '/'.toUInt8 && beginsWith "*" t then
    (blockCommentLength? 1 (t.drop 1)).map fun n => ⟨none, n, modes⟩
  else if b = '"'.toUInt8 then some ⟨some .openQuote, 0, .quoted :: modes⟩
  else if b = '\x7b'.toUInt8 then some ⟨some (.sign .openBrace), 0, afterOpenBrace modes⟩
  else if b = '\x7d'.toUInt8 then some (closeBrace modes)
  else if b = '~'.toUInt8 && beginsWith "\x7d" t then closeTrimming? modes
  else
    let sign := (sign? (b :: t)).map fun (s, n) => (⟨some (.sign s), n - 1, modes⟩ : Scanned)
    if b = '<'.toUInt8 then (openHeredoc? modes t).or sign else sign

/-- The step by the ordinary rules at the start of `b :: t`. -/
def ordinaryStep? (modes : List Mode) (b : UInt8) (t : Text) : Option Scanned :=
  if isGap b then some ⟨none, runLength isGap t, modes⟩
  else if Text.isDigit b then
    let n := numeralLength 0 0 t
    some ⟨some (.number (b :: t.take n)), n, modes⟩
  else
    match nameStart? b t with
    | some k =>
      let n := nameLength k (t.drop k)
      some ⟨some (.identifier (b :: t.take n)), n, modes⟩
    | none => otherStep? modes b t

/-! ## Rules inside templates -/

/-- Whether a byte begins an interpolation or a directive, or ends a line. -/
def breaksTemplate (b : UInt8) : Bool :=
  b = '$'.toUInt8 || b = '%'.toUInt8 || b = '\n'.toUInt8 || b = '\r'.toUInt8

/-- How many bytes of plain text and escapes stand at the start, where `read` have been read. -/
def quotedLength (read : Nat) : Text → Nat
  | 0x5C :: b :: t =>
    if b = '\n'.toUInt8 || b = '\r'.toUInt8 then read else quotedLength (read + 2) t
  | b :: t =>
    if breaksTemplate b || b = '"'.toUInt8 || b = '\\'.toUInt8 then read
    else quotedLength (read + 1) t
  | [] => read

/-- The step for a dollar or per cent sign `c` inside a template: an interpolation or a directive, a
sign that was written twice to escape one, or the sign itself. -/
def signStep? (text : Text → TokenKind) (modes below : List Mode) (c : Char) (t : Text) :
    Option Scanned :=
  if beginsWith "\x7b" t then
    let trim := beginsWith "~" (t.drop 1)
    let kind := if c = '$' then TokenKind.openSequence trim else .openDirective trim
    some ⟨some kind, if trim then 2 else 1, .sequence 0 :: below⟩
  else if beginsWith (c.toString ++ "\x7b") t then
    some ⟨some (text (Text.ofString (c.toString ++ "\x7b"))), 2, modes⟩
  else some ⟨some (text [c.toUInt8]), 0, modes⟩

/-- The step inside quotes at the start of `b :: t`, where `below` are the modes around them. -/
def quotedStep? (below : List Mode) (b : UInt8) (t : Text) : Option Scanned :=
  let modes := Mode.quoted :: below
  if b = '"'.toUInt8 then some ⟨some .closeQuote, 0, below⟩
  else if b = '$'.toUInt8 then signStep? .quoted modes modes '$' t
  else if b = '%'.toUInt8 then signStep? .quoted modes modes '%' t
  else
    let n := quotedLength 0 (b :: t)
    let taken : Text := (b :: t).take n
    if n = 0 || !Form.allProper taken then none
    else some ⟨some (.quoted taken), n - 1, modes⟩

/-- The step inside a heredoc at the start of `b :: t`. A line that holds nothing but the end
marker closes it. -/
def heredocStep? (marker : Text) (lineStart : Bool) (below : List Mode) (b : UInt8) (t : Text) :
    Option Scanned :=
  let midline := Mode.heredoc marker false :: below
  if b = '$'.toUInt8 then signStep? .verbatim midline midline '$' t
  else if b = '%'.toUInt8 then signStep? .verbatim midline midline '%' t
  else
    let n := runLength (fun b => !breaksTemplate b) (b :: t)
    let taken : Text := (b :: t).take n
    let ending := lineEnding ((b :: t).drop n)
    if !Form.allProper taken then none
    else if lineStart && 0 < n && 0 < ending && taken.trim = marker then
      some ⟨some .closeHeredoc, n - 1, below⟩
    else if n + ending = 0 then none
    else
      some ⟨some (.verbatim ((b :: t).take (n + ending))), n + ending - 1,
        .heredoc marker (0 < ending) :: below⟩

/-! ## Scanning -/

/-- The step at the start of `b :: t` in the current mode. -/
def step? (modes : List Mode) (b : UInt8) (t : Text) : Option Scanned :=
  match modes with
  | .quoted :: below => quotedStep? below b t
  | .heredoc marker lineStart :: below => heredocStep? marker lineStart below b t
  | modes => ordinaryStep? modes b t

/-- The tokens of a text, put after those already read. -/
def scanOnto (read : List Token) (place : Place) (modes : List Mode) :
    Text → Option (List Token)
  | [] => if modes.isEmpty then some read.reverse else none
  | b :: t =>
    match step? modes b t with
    | none => none
    | some s =>
      let next := place.after (b :: t.take s.more)
      let read := match s.kind with
        | some kind => ⟨kind, ⟨place, next⟩⟩ :: read
        | none => read
      scanOnto read next s.modes (t.drop s.more)
termination_by t => t.length
decreasing_by simp only [List.length_cons, List.length_drop]; omega

/-- A text without a byte order mark at its start. -/
def dropMark : Text → Text
  | 0xEF :: 0xBB :: 0xBF :: t => t
  | t => t

/-- The tokens of a text. -/
def scan (t : Text) : Option (List Token) :=
  scanOnto [] .start [] (dropMark t)

end Config

end GridRobot
