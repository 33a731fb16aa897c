import GridRobot.Text.Basic

/-!
# Reading text as characters

Text is read as UTF-8 where it is UTF-8. A byte that begins no well-formed sequence stands for
itself, so that reading never fails and never loses a byte: `runes` gives the characters and the
stray bytes in order, and `Rune.bytes` gives the bytes of each back.
-/

namespace GridRobot

/-- A character, or a byte that is part of none. -/
inductive Rune where
  | char (c : Char)
  | stray (b : UInt8)
  deriving DecidableEq, Repr

namespace Rune

/-- The character that stands for a stray byte where only characters can be written. -/
def replacement : Char :=
  Char.ofNat 0xFFFD

/-- The code point of a rune; a stray byte counts as the replacement character. -/
def code : Rune → Nat
  | char c => c.toNat
  | stray _ => 0xFFFD

end Rune

namespace Text

/-- The UTF-8 bytes of a character. -/
def ofChar (c : Char) : Text :=
  String.utf8EncodeChar c

/-- Whether a byte lies in a range. -/
def within (lo hi b : UInt8) : Bool :=
  lo ≤ b && b ≤ hi

/-- The low six bits that a continuation byte carries. -/
def low6 (b : UInt8) : Nat :=
  b.toNat % 64

/-- Whether `c` may follow the first byte `b` of a sequence. The narrower ranges leave out
overlong forms, surrogates and code points above the last one. -/
def continues (b c : UInt8) : Bool :=
  if b = 0xE0 then within 0xA0 0xBF c
  else if b = 0xED then within 0x80 0x9F c
  else if b = 0xF0 then within 0x90 0xBF c
  else if b = 0xF4 then within 0x80 0x8F c
  else within 0x80 0xBF c

/-- The code point of the sequence that starts with byte `b`, with the text after it. -/
def sequence? (b : UInt8) (t : Text) : Option (Nat × Text) :=
  if b < 0x80 then some (b.toNat, t)
  else if within 0xC2 0xDF b then
    match t with
    | c :: r => if continues b c then some ((b.toNat % 32) * 64 + low6 c, r) else none
    | _ => none
  else if within 0xE0 0xEF b then
    match t with
    | c :: d :: r =>
      if continues b c && within 0x80 0xBF d then
        some ((b.toNat % 16) * 4096 + low6 c * 64 + low6 d, r)
      else none
    | _ => none
  else if within 0xF0 0xF4 b then
    match t with
    | c :: d :: e :: r =>
      if continues b c && within 0x80 0xBF d && within 0x80 0xBF e then
        some ((b.toNat % 8) * 262144 + low6 c * 4096 + low6 d * 64 + low6 e, r)
      else none
    | _ => none
  else none

/-- Splits off the first rune of a text given as its first byte and the rest. -/
def nextRune (b : UInt8) (t : Text) : Rune × Text :=
  match sequence? b t with
  | some (n, r) => (.char (Char.ofNat n), r)
  | none => (.stray b, t)

theorem length_le_of_sequence? {b : UInt8} {t r : Text} {n : Nat}
    (h : sequence? b t = some (n, r)) : r.length ≤ t.length := by
  unfold sequence? at h
  repeat' split at h
  all_goals simp_all
  all_goals omega

theorem length_nextRune_le (b : UInt8) (t : Text) : (nextRune b t).2.length ≤ t.length := by
  unfold nextRune
  split
  · exact length_le_of_sequence? ‹_›
  · exact Nat.le_refl _

/-- The runes of a text, put after those already read. -/
def runesOnto (read : List Rune) : Text → List Rune
  | [] => read.reverse
  | b :: t => runesOnto ((nextRune b t).1 :: read) (nextRune b t).2
termination_by t => t.length
decreasing_by
  have := length_nextRune_le b t
  simp only [List.length_cons]
  omega

/-- The characters and stray bytes of a text, in order. -/
def runes (t : Text) : List Rune :=
  runesOnto [] t

end Text

namespace Rune

/-- The bytes that a rune was read from. -/
def bytes : Rune → Text
  | char c => Text.ofChar c
  | stray b => [b]

/-- The bytes of a rune written as a character. -/
def asChar : Rune → Text
  | char c => Text.ofChar c
  | stray _ => Text.ofChar replacement

end Rune

end GridRobot
