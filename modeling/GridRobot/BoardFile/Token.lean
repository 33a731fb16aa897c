import GridRobot.Text.Quoted

/-!
# Tokens of a board file

A board file is made of keywords and whole numbers, with white space and comments between them.
`Token.scan` reads the whole text into tokens first. At each place the first kind of lexeme that
fits is taken: a comment, a keyword, a number, white space. A keyword may be written in letters
of either case and ends where no letter, digit or underscore follows; a number needs nothing
around it, so `3ROBOT` is a number and a keyword.

Every token knows its place and where the gap before it begins.
-/

namespace GridRobot

namespace BoardFile

/-- A place in a file; lines and columns count from one, and columns count characters. -/
structure Place where
  line : Nat
  column : Nat
  deriving DecidableEq, Repr, Inhabited

namespace Place

/-- Where a file begins. -/
def start : Place :=
  ⟨1, 1⟩

/-- The place after a rune. -/
def after (p : Place) (r : Rune) : Place :=
  if r = .char '\n' then ⟨p.line + 1, 1⟩ else { p with column := p.column + 1 }

/-- A place with the name of the file before it, unless that is empty. -/
def text (file : Text) (p : Place) : Text :=
  (if file.isEmpty then [] else file ++ Text.ofString ":") ++ Text.ofNat p.line ++
    Text.ofString ":" ++ Text.ofNat p.column

end Place

/-- The keywords. -/
inductive Word where
  | size
  | robot
  | target
  | obstacle
  deriving DecidableEq, Repr, Inhabited

namespace Word

/-- All keywords. -/
def all : List Word :=
  [size, robot, target, obstacle]

/-- The letters of a keyword. -/
def letters : Word → List Char
  | size => ['S', 'I', 'Z', 'E']
  | robot => ['R', 'O', 'B', 'O', 'T']
  | target => ['T', 'A', 'R', 'G', 'E', 'T']
  | obstacle => ['O', 'B', 'S', 'T', 'A', 'C', 'L', 'E']

/-- A keyword as text. -/
def text (w : Word) : Text :=
  w.letters.flatMap Text.ofChar

end Word

/-! ## Lexemes -/

/-- Whether a rune is an ASCII letter, a digit or an underscore. -/
def isWordRune : Rune → Bool
  | .char c => c.isAlphanum || c == '_'
  | .stray _ => false

/-- Whether a rune is a decimal digit. -/
def isDigitRune : Rune → Bool
  | .char c => c.isDigit
  | .stray _ => false

/-- Whether a rune is white space between tokens. -/
def isGapRune : Rune → Bool
  | .char c => c == ' ' || c == '\t' || c == '\n' || c == '\r' || c == '\x0c'
  | .stray _ => false

/-- Whether a rune is a form of a capital letter: the letter in either case, and the long s for
an S. -/
def isFormOf (letter : Char) : Rune → Bool
  | .char c => c.toUpper == letter || (letter == 'S' && c == 'ſ')
  | .stray _ => false

/-- Whether runes begin with a form of each letter and then with nothing that continues a
word. -/
def spells : List Char → List Rune → Bool
  | [], [] => true
  | [], r :: _ => !isWordRune r
  | _ :: _, [] => false
  | c :: cs, r :: rs => isFormOf c r && spells cs rs

/-- The kinds of lexemes. -/
inductive Lexeme where
  | comment
  | keyword (word : Word)
  | number
  | gap
  deriving DecidableEq, Repr, Inhabited

/-- How many runes at the start satisfy a test. -/
def runLength (p : Rune → Bool) (rs : List Rune) : Nat :=
  (rs.takeWhile p).length

/-- The keyword at the start of `r :: rs`. A word begins with an ASCII letter. -/
def keyword? (r : Rune) (rs : List Rune) : Option Word :=
  if isWordRune r then Word.all.find? fun w => spells w.letters (r :: rs) else none

/-- The lexeme at the start of `r :: rs`, with the number of runes it takes after the first. -/
def lexeme? (r : Rune) (rs : List Rune) : Option (Lexeme × Nat) :=
  if r = .char '#' then some (.comment, runLength (· ≠ .char '\n') rs)
  else
    match keyword? r rs with
    | some w => some (.keyword w, w.letters.length - 1)
    | none =>
      if isDigitRune r then some (.number, runLength isDigitRune rs)
      else if (r = .char '+' || r = .char '-') && rs.head?.any isDigitRune then
        some (.number, runLength isDigitRune rs)
      else if isGapRune r then some (.gap, runLength isGapRune rs)
      else none

/-! ## Tokens -/

/-- The kinds of tokens. -/
inductive TokenKind where
  | keyword (word : Word)
  | number
  deriving DecidableEq, Repr, Inhabited

/-- A token. -/
structure Token where
  kind : TokenKind
  text : Text
  place : Place
  /-- Where the gap before the token begins, which is where the token before it ends. -/
  gap : Place
  deriving DecidableEq, Repr, Inhabited

/-- The tokens of a text, and where the text ends. -/
structure Tokens where
  tokens : List Token
  ending : Place
  deriving DecidableEq, Repr, Inhabited

/-- The kind of token that a lexeme is, if it is one. -/
def Lexeme.kind? : Lexeme → Option TokenKind
  | comment => none
  | gap => none
  | keyword w => some (.keyword w)
  | number => some .number

/-- The tokens of runes, put after those already read. Runes that begin no lexeme are given back
with their place. -/
def scanOnto (read : List Token) (place gap : Place) :
    List Rune → Except (Place × List Rune) Tokens
  | [] => .ok ⟨read.reverse, place⟩
  | r :: rs =>
    match lexeme? r rs with
    | none => .error (place, r :: rs)
    | some (lexeme, n) =>
      let taken := r :: rs.take n
      let next := taken.foldl Place.after place
      match lexeme.kind? with
      | none => scanOnto read next gap (rs.drop n)
      | some kind =>
        scanOnto (⟨kind, taken.flatMap Rune.bytes, place, gap⟩ :: read) next next (rs.drop n)
termination_by rs => rs.length
decreasing_by all_goals simp only [List.length_cons, List.length_drop]; omega

/-- The tokens of a text. -/
def scan (t : Text) : Except (Place × List Rune) Tokens :=
  scanOnto [] .start .start t.runes

end BoardFile

end GridRobot
