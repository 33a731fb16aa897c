/-!
# Text

Everything that is read or written is a sequence of bytes. Most of it is UTF-8, but nothing
requires it to be: a script, a board file or an argument may hold any bytes at all. `Text` is
that sequence, `Text.ofString` brings a literal into it, and the decimal writers `Text.ofNat`
and `Text.ofInt` are here because every message with a number in it uses them.
-/

namespace GridRobot

/-- A piece of text, as its bytes. -/
abbrev Text := List UInt8

namespace Text

/-- The UTF-8 bytes of a string. -/
def ofString (s : String) : Text :=
  s.toByteArray.data.toList

/-- The text of a string in UTF-8, where the bytes form one. -/
def toString? (t : Text) : Option String :=
  String.fromUTF8? ⟨t.toArray⟩

/-- The decimal digit of `n`, which is at most nine. -/
def digit (n : Nat) : UInt8 :=
  UInt8.ofNat (48 + n)

/-- Whether a byte is one of the ten decimal digits. -/
def isDigit (b : UInt8) : Bool :=
  48 ≤ b && b ≤ 57

/-- The value of a decimal digit. -/
def digitValue (b : UInt8) : Nat :=
  b.toNat - 48

/-- The decimal digits of a number, without leading zeros. -/
def ofNat (n : Nat) : Text :=
  if n < 10 then [digit n] else ofNat (n / 10) ++ [digit (n % 10)]

/-- A number in decimal, with a minus sign where it is negative. -/
def ofInt : Int → Text
  | .ofNat n => ofNat n
  | .negSucc n => 45 :: ofNat (n + 1)

/-- A 64-bit number in decimal. -/
def ofInt64 (n : Int64) : Text :=
  ofInt n.toInt

/-- Pieces of text put together with a separator between neighbours. -/
def join (separator : Text) (pieces : List Text) : Text :=
  separator.intercalate pieces

/-- The pieces of a text between the bytes that satisfy `p`, empty pieces included. -/
def splitWhere (p : UInt8 → Bool) (t : Text) : List Text :=
  let pieces := t.foldr (fun b (piece, rest) =>
    if p b then ([], piece :: rest) else (b :: piece, rest)) (([], []) : Text × List Text)
  pieces.1 :: pieces.2

/-- One of the sixteen lower-case hexadecimal digits. -/
def hexDigit (n : Nat) : UInt8 :=
  if n < 10 then digit n else UInt8.ofNat (87 + n)

/-- The low `width` hexadecimal digits of a number. -/
def hex (width n : Nat) : Text :=
  match width with
  | 0 => []
  | width + 1 => hex width (n / 16) ++ [hexDigit (n % 16)]

end Text

end GridRobot
