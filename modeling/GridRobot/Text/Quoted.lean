import GridRobot.Text.Printable

/-!
# Quoted text

Names and words that come from a script or a file are quoted where a message repeats them, so
that an unprintable character or a byte that is no character shows up as an escape.
-/

namespace GridRobot

namespace Text

/-- The escape letter of the characters that have one. -/
def escapeLetter? (c : Char) : Option UInt8 :=
  match c.toNat with
  | 7 => some 97
  | 8 => some 98
  | 9 => some 116
  | 10 => some 110
  | 11 => some 118
  | 12 => some 102
  | 13 => some 114
  | 34 => some 34
  | 92 => some 92
  | _ => none

/-- How a rune is written between quotes: printable characters as they are, the others as
escapes, the shortest that fits. -/
def escaped : Rune → Text
  | .stray b => ofString "\\x" ++ hex 2 b.toNat
  | .char c =>
    match escapeLetter? c with
    | some letter => [92, letter]
    | none =>
      if isPrintable c then ofChar c
      else if c.toNat < 128 then ofString "\\x" ++ hex 2 c.toNat
      else if c.toNat < 0x10000 then ofString "\\u" ++ hex 4 c.toNat
      else ofString "\\U" ++ hex 8 c.toNat

/-- A text between double quotes, with escapes. -/
def quoted (t : Text) : Text :=
  34 :: t.runes.flatMap escaped ++ [34]

end Text

end GridRobot
