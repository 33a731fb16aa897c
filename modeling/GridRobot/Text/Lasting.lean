import GridRobot.Text.Cluster
import GridRobot.Text.Composed

/-!
# What stays as it is

Where only the start of a string is known, what follows may still change the end of that start: a
mark goes together with the letter before it. `Text.lasting` gives the part of a start that stays
as it is in composed form whatever follows, and that ends between two clusters.
-/

namespace GridRobot

namespace Text

/-- Whether a code point may go together with one after it. -/
def joinsAfter (n : Nat) : Bool :=
  (0x1100 ≤ n && n < 0x1113) || (0x1161 ≤ n && n < 0x1176) ||
    compositions.any fun (a, _, _) => a = n

/-- Whether composed text may end after a rune whatever follows. -/
def isInert : Rune → Bool
  | .stray _ => true
  | .char c =>
    let t := traitOf c.toNat
    t.settled && t.grade = 0 && t.trailing = 0 && (parts? c.toNat).isNone && !joinsAfter c.toNat

/-- Runes in reverse without those at the end that a letter may still go together with, and without
that letter; nothing if there is no letter. -/
def withoutLetter? : List Rune → Option (List Rune)
  | [] => none
  | .stray b :: rs => some (.stray b :: rs)
  | r :: rs => if (trait r).leading = 0 then some rs else withoutLetter? rs

/-- How many bytes at the end of a text begin a character that is cut off there. -/
def cutOff (t : Text) : Nat :=
  let tail := t.reverse.takeWhile (within 0x80 0xBF)
  match (t.reverse.drop tail.length).head?.bind Form.following? with
  | some n => if tail.length < n then tail.length + 1 else 0
  | none => 0

/-- Whether a cluster cannot be gone on: it is one of the signs that are often put between
words. -/
def isDelimiter (cluster : Text) : Bool :=
  ("-_:;/\\,.()\x7b\x7d[]|?!~ \t@#$%^&*+\"'".toList.map fun c => [c.toUInt8]).contains cluster

/-- The clusters of a text that stay what they are whatever follows, put after those already found
in reverse. Those that are a single byte for want of another rule end it. The last one may still be
gone on. -/
def lastingOnto (found : List Text) : Text → List Text
  | [] =>
    match found with
    | [] => []
    | c :: cs => (if isDelimiter c then c :: cs else cs).reverse
  | b :: t =>
    match Reading.cluster? ⟨0, b :: t⟩ with
    | none => found.reverse
    | some r =>
      let more := r.count - 1
      lastingOnto ((b :: t.take more) :: found) (t.drop more)
termination_by t => t.length
decreasing_by simp only [List.length_cons, List.length_drop]; omega

/-- The part of a text that stays as it is in composed form whatever follows. -/
def lasting (t : Text) : Text :=
  let t := t.composed
  let cut := cutOff t
  let whole : Text := t.take (t.length - cut)
  let rs := whole.runes.reverse
  match rs with
  | [] => []
  | r :: _ =>
    if isInert r then if cut = 0 then (lastingOnto [] t).flatten else whole
    else
      match withoutLetter? rs with
      | some rs => rs.reverse.flatMap Rune.bytes
      | none => (lastingOnto [] t).flatten

end Text

end GridRobot
