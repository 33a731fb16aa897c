import GridRobot.Text.Marks

/-!
# Composed text

A letter with marks can be written in more than one way. `Text.composed` brings a text into the
one form in which every letter and mark that have a common code point are written as that code
point: each rune is taken apart, the marks after a letter are put in the order of their classes,
and letters and marks are put together again as far as they go.

The work is done one segment at a time, a letter with the marks after it, and text that is
composed already is left alone. A segment is never longer than `markLimit` marks: where more of
them follow each other, a joiner is put between them.
-/

namespace GridRobot

namespace Text

/-! ## Syllable blocks -/

/-- The leading consonant, the vowel and, where there is one, the trailing consonant of a Korean
syllable block. -/
def syllableParts (n : Nat) : List Nat :=
  let i := n - 0xAC00
  let block := [0x1100 + i / 588, 0x1161 + i % 588 / 28]
  if i % 28 = 0 then block else block ++ [0x11A7 + i % 28]

/-- Whether a code point is a Korean syllable block. -/
def isSyllable (n : Nat) : Bool :=
  0xAC00 ≤ n && n < 0xAC00 + 11172

/-- The syllable block that a leading consonant and a vowel make, or that a block without a
trailing consonant makes with one. -/
def syllable? (a b : Nat) : Option Nat :=
  if 0x1100 ≤ a && a < 0x1113 && 0x1161 ≤ b && b < 0x1176 then
    some (0xAC00 + (a - 0x1100) * 588 + (b - 0x1161) * 28)
  else if isSyllable a && (a - 0xAC00) % 28 = 0 && 0x11A8 ≤ b && b < 0x11C3 then
    some (a + (b - 0x11A7))
  else none

/-! ## Taking apart -/

/-- The code point that a substitute stands for. -/
def substituted? (n : Nat) : Option Nat :=
  substitutes.findSome? fun (first, ns) => if first ≤ n then ns[n - first]? else none

/-- What a code point stands for, one step down. -/
def parts? (n : Nat) : Option (List Nat) :=
  if n < 0xC0 then none
  else if isSyllable n then some (syllableParts n)
  else
    match (compositions ++ separations).find? fun (_, _, c) => c = n with
    | some (a, b, _) => some [a, b]
    | none => (substituted? n).map ([·])

/-- A code point taken apart, at most `depth` steps down. -/
def takenApart (depth n : Nat) : List Nat :=
  match depth with
  | 0 => [n]
  | depth + 1 =>
    match parts? n with
    | some ns => ns.flatMap (takenApart depth)
    | none => [n]

/-- A code point taken apart entirely. None goes further down than four steps. -/
def spelling (n : Nat) : List Nat :=
  takenApart 4 n

/-! ## How runes take part -/

/-- How a rune takes part in composed text. -/
structure Trait where
  /-- The class of the mark that it begins with; zero if it begins with a letter. -/
  grade : Nat
  /-- Whether it may go together with what is before it. -/
  joins : Bool
  /-- Whether it can stand in composed text whatever is before it. -/
  settled : Bool
  /-- How many marks it begins with. -/
  leading : Nat
  /-- How many marks it ends with. -/
  trailing : Nat
  deriving DecidableEq, Repr

/-- Whether a code point may go together with the one before it. -/
def joinsBefore (n : Nat) : Bool :=
  (0x1161 ≤ n && n < 0x1176) || (0x11A7 ≤ n && n < 0x11C3) ||
    compositions.any fun (_, b, _) => b = n

/-- Whether a code point is only another spelling of others. -/
def isRespelled (n : Nat) : Bool :=
  (substituted? n).isSome || separations.any fun (_, _, c) => c = n

/-- Whether a code point counts as a mark: it has a class or joins what is before it. -/
def countsAsMark (n : Nat) : Bool :=
  markClass n ≠ 0 || joinsBefore n

/-- How many marks a code point begins with and ends with. -/
def markCounts (n : Nat) : Nat × Nat :=
  if isSyllable n then (0, if (n - 0xAC00) % 28 = 0 then 1 else 2)
  else
    match looseMarks.find? fun (lo, hi, _) => lo ≤ n && n ≤ hi with
    | some (_, _, counts) => counts
    | none =>
      let ns := spelling n
      ((ns.takeWhile countsAsMark).length, (ns.reverse.takeWhile countsAsMark).length)

/-- How a code point takes part. -/
def traitOf (n : Nat) : Trait :=
  let joins := joinsBefore n
  let (leading, trailing) := markCounts n
  { grade := ((spelling n).head?.map markClass).getD 0
    joins, leading, trailing
    settled := !joins && !isRespelled n }

/-- How a rune takes part; a stray byte is like a letter. -/
def trait : Rune → Trait
  | .char c => traitOf c.toNat
  | .stray _ => ⟨0, false, true, 0, 0⟩

/-! ## Counting marks -/

/-- How many marks may follow each other in a segment. -/
def markLimit : Nat := 30

/-- What becomes of the count of marks with one more rune. -/
inductive Tally where
  /-- The rune begins a segment, and ends with some marks. -/
  | fresh (count : Nat)
  /-- The rune goes on a segment. -/
  | further (count : Nat)
  /-- The rune is one too many for the segment. -/
  | full
  deriving DecidableEq, Repr

/-- The count after one more rune. -/
def tally (count : Nat) (t : Trait) : Tally :=
  if markLimit < count + t.leading then .full
  else if t.leading = 0 then .fresh t.trailing
  else .further (count + t.leading)

/-- How many of the runes ahead are composed already, up to the start of the first segment that
is not. Of the `read` runes before them the last segment began after `start`, and it ended with a
mark of class `grade` and held `count` marks. -/
def settledOnto (read start grade count : Nat) : List Rune → Nat
  | [] => read
  | r :: rs =>
    if r.code < 128 then settledOnto (read + 1) read 0 0 rs
    else
      let t := trait r
      match tally count t with
      | .full => start
      | .fresh count => if t.settled then settledOnto (read + 1) read t.grade count rs else read
      | .further count =>
        if t.grade < grade || !t.settled then start
        else settledOnto (read + 1) start t.grade count rs

/-- How many of the runes at the start are composed already. -/
def settledLength (rs : List Rune) : Nat :=
  settledOnto 0 0 0 0 rs

/-! ## Putting together -/

/-- A rune of a segment that is being composed. -/
structure Slot where
  rune : Rune
  grade : Nat
  joins : Bool
  deriving DecidableEq, Repr

/-- The slot of a code point without a class. -/
def plainSlot (n : Nat) : Slot :=
  ⟨.char (Char.ofNat n), 0, false⟩

/-- The slot of a code point. -/
def slotOf (n : Nat) : Slot :=
  ⟨.char (Char.ofNat n), markClass n, joinsBefore n⟩

/-- The code point that is written for two others, which are told apart by their last sixteen
bits. -/
def code? (a b : Nat) : Option Nat :=
  (compositions.find? fun (c, d, _) => c % 65536 = a % 65536 && d % 65536 = b % 65536).map
    fun (_, _, n) => n

/-- The rune that is written for two others by a rule for code points. -/
def together? (rule : Nat → Nat → Option Nat) (r s : Rune) : Option Rune :=
  match r, s with
  | .char c, .char d => (rule c.toNat d.toNat).map fun n => .char (Char.ofNat n)
  | _, _ => none

/-- Where the letter stands that a rune may go together with, if nothing is in between that keeps
them apart. `kept` are the slots before the rune in reverse, and the last letter known of stands
at `letter`. Also gives the place of the letter that is known of from here on. -/
def letterFor (kept : List Slot) (letter : Nat) (s : Slot) : Nat × Bool :=
  let last := kept.length - 1
  match kept.head?.map (·.grade) with
  | some 0 => (last, true)
  | some g => (letter, letter = last || g < s.grade)
  | none => (letter, false)

/-- The slots with the rune for the letter at a place put into it, if the rule gives one. -/
def joined? (rule : Nat → Nat → Option Nat) (kept : List Slot) (letter : Nat) (s : Slot) :
    Option (List Slot) :=
  let i := kept.length - 1 - letter
  (kept[i]?).bind fun l =>
    (together? rule l.rune s.rune).map fun r => kept.modify i fun _ => ⟨r, 0, false⟩

/-- Syllable blocks put together, after the slots `kept` in reverse. -/
def blocksOnto (kept : List Slot) (letter : Nat) : List Slot → List Slot
  | [] => kept.reverse
  | s :: rest =>
    let (letter, free) := letterFor kept letter s
    match if free then joined? syllable? kept letter s else none with
    | some kept => blocksOnto kept letter rest
    | none => blocksOnto (s :: kept) letter rest

/-- Whether a rune is a part of syllable blocks. -/
def isBlockPart (r : Rune) : Bool :=
  0x1100 ≤ r.code && r.code ≤ 0x11FF

/-- Slots put together, after the slots `kept` in reverse. -/
def togetherOnto (kept : List Slot) (letter : Nat) : List Slot → List Slot
  | [] => kept.reverse
  | s :: rest =>
    if isBlockPart s.rune then blocksOnto kept letter (s :: rest)
    else if !s.joins then togetherOnto (s :: kept) letter rest
    else
      let (letter, free) := letterFor kept letter s
      match if free then joined? code? kept letter s else none with
      | some kept => togetherOnto kept letter rest
      | none => togetherOnto (s :: kept) letter rest

/-- The runes of slots that are given in reverse, put together as far as they go, in reverse. -/
def together (slots : List Slot) : List Rune :=
  match slots.reverse with
  | [] => []
  | s :: rest => (togetherOnto [s] 0 rest).reverse.map (·.rune)

/-! ## Segments -/

/-- Text under composition: what is done and the segment after it, both in reverse. -/
structure Draft where
  done : List Rune
  segment : List Slot

namespace Draft

/-- The draft with its segment done. -/
def flush (d : Draft) : Draft :=
  ⟨together d.segment ++ d.done, []⟩

/-- Slots in reverse with one more, a mark before those of a higher class. -/
def place (s : Slot) : List Slot → List Slot
  | [] => [s]
  | t :: rest => if 0 < s.grade && s.grade < t.grade then t :: place s rest else s :: t :: rest

/-- The draft with one more slot in its segment. -/
def add (d : Draft) (s : Slot) : Draft :=
  { d with segment := place s d.segment }

/-- The draft with a part of a rune in its segment; a letter begins a new one. -/
def addPart (d : Draft) (n : Nat) : Draft :=
  let s := slotOf n
  if s.grade = 0 && !s.joins && !d.segment.isEmpty then d.flush.add s else d.add s

/-- The draft with one more rune. -/
def addRune (d : Draft) : Rune → Draft
  | .stray b => d.add ⟨.stray b, 0, false⟩
  | .char c =>
    if isSyllable c.toNat then ((syllableParts c.toNat).map plainSlot).foldl add d
    else
      match spelling c.toNat with
      | [n] => if n = c.toNat then d.add (slotOf n) else d.addPart n
      | ns => ns.foldl addPart d

end Draft

/-- The joiner that is put where a segment is full. -/
def joinerSlot : Slot :=
  plainSlot 0x34F

/-- Goes on a segment as far as it goes, and gives what is done, the count of marks, and the runes
after it. -/
def finishSegment (d : Draft) (count : Nat) : List Rune → List Rune × Nat × List Rune
  | [] => (d.flush.done, count, [])
  | r :: rs =>
    match tally count (trait r) with
    | .fresh count => (d.flush.done, count, r :: rs)
    | .full => ((d.add joinerSlot).flush.done, 0, r :: rs)
    | .further count => finishSegment (d.addRune r) count rs

/-- Composes the segment at the start of `r :: rs`. -/
def composeSegment (done : List Rune) (count : Nat) (r : Rune) (rs : List Rune) :
    List Rune × Nat × List Rune :=
  match tally count (trait r) with
  | .full => (joinerSlot.rune :: done, 0, r :: rs)
  | .fresh count => finishSegment (Draft.addRune ⟨done, []⟩ r) count rs
  | .further count => finishSegment (Draft.addRune ⟨done, []⟩ r) count rs

/-- The runes composed, after those that are done in reverse. Every second step at least takes a
rune, so a bound of twice their number is enough. -/
def composedOnto : Nat → List Rune → Nat → List Rune → List Rune
  | 0, done, _, rs => done.reverse ++ rs
  | _ + 1, done, _, [] => done.reverse
  | n + 1, done, count, r :: rs =>
    let (done, count, rest) := composeSegment done count r rs
    let k := settledLength rest
    composedOnto n ((rest.take k).reverse ++ done) count (rest.drop k)

/-- A text in composed form. -/
def composed (t : Text) : Text :=
  let rs := t.runes
  let k := settledLength rs
  let rest := rs.drop k
  if rest.isEmpty then t
  else (composedOnto (2 * rest.length + 1) (rs.take k).reverse 0 rest).flatMap Rune.bytes

end Text

end GridRobot
