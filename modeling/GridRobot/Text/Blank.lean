import GridRobot.Text.Basic

/-!
# White space

Two notions of white space meet here. Words on a line are separated by the six blank bytes of
ASCII, and `words` splits on exactly those. A line as a whole is trimmed of every white-space
character, the no-break space and the ideographic space among them, and `trim` works on the
encoded characters at either end.
-/

namespace GridRobot

namespace Text

/-! ## Words -/

/-- Whether a byte is one of the six that separate words: tab, newline, vertical tab, form feed,
carriage return and space. -/
def isBlank (b : UInt8) : Bool :=
  (9 ≤ b && b ≤ 13) || b = 32

/-- Puts a word before others, unless it is empty. -/
def pushWord (word : Text) (words : List Text) : List Text :=
  if word.isEmpty then words else word :: words

/-- The words of a line: its longest stretches without a blank byte. -/
def words (line : Text) : List Text :=
  let last := line.foldr (fun b (word, rest) =>
    if isBlank b then ([], pushWord word rest) else (b :: word, rest)) (([], []) : Text × List Text)
  pushWord last.1 last.2

/-! ## Trimming -/

/-- The encodings of the white-space characters. -/
def whiteSpace : List Text := [
  [0x20], [0x09], [0x0A], [0x0B], [0x0C], [0x0D], [0xC2, 0x85], [0xC2, 0xA0], [0xE1, 0x9A, 0x80],
  [0xE2, 0x80, 0x80], [0xE2, 0x80, 0x81], [0xE2, 0x80, 0x82], [0xE2, 0x80, 0x83],
  [0xE2, 0x80, 0x84], [0xE2, 0x80, 0x85], [0xE2, 0x80, 0x86], [0xE2, 0x80, 0x87],
  [0xE2, 0x80, 0x88], [0xE2, 0x80, 0x89], [0xE2, 0x80, 0x8A], [0xE2, 0x80, 0xA8],
  [0xE2, 0x80, 0xA9], [0xE2, 0x80, 0xAF], [0xE2, 0x81, 0x9F], [0xE3, 0x80, 0x80]]

/-- What follows the first of the given codes that `b :: t` starts with. -/
def after? (codes : List Text) (b : UInt8) (t : Text) : Option Text :=
  codes.findSome? fun code =>
    match code with
    | c :: cs => if c == b && cs.isPrefixOf t then some (t.drop cs.length) else none
    | [] => none

theorem length_le_of_after? {codes : List Text} {b : UInt8} {t rest : Text}
    (h : after? codes b t = some rest) : rest.length ≤ t.length := by
  obtain ⟨code, _, hc⟩ := List.exists_of_findSome?_eq_some h
  split at hc
  · split at hc
    · cases hc
      simp
    · cases hc
  · cases hc

/-- A text without any of the given codes at its start. -/
def dropCodes (codes : List Text) : Text → Text
  | [] => []
  | b :: t =>
    match _ : after? codes b t with
    | some rest => dropCodes codes rest
    | none => b :: t
termination_by t => t.length
decreasing_by
  have := length_le_of_after? ‹after? codes b t = some rest›
  simp only [List.length_cons]
  omega

/-- A text without white space at its start. -/
def trimLeft (t : Text) : Text :=
  dropCodes whiteSpace t

/-- A text without white space at its end. -/
def trimRight (t : Text) : Text :=
  (dropCodes (whiteSpace.map List.reverse) t.reverse).reverse

/-- A text without white space at either end. -/
def trim (t : Text) : Text :=
  trimRight (trimLeft t)

end Text

end GridRobot
