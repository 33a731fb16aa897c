import GridRobot.BoardFile.Token
import GridRobot.Proofs.Runes

/-!
# What a board file is made of

A board file is a sequence of pieces, keywords and numerals, with white space and comments around
them. `Laid ps t` says how pieces are laid out in a text, byte by byte: a keyword is spelt in
letters of either case (`Word.SpeltBy`), a numeral is a sign and digits (`IsNumeral`), and neither
may run on into what follows. The scan of a text finds exactly the pieces that are laid out in it
(`exists_scan_iff`).

In between stands the scan without the places that it notes (`Lexes`). A piece is found because its
lexeme is the one that begins there (`lexeme?_keyword`, `lexeme?_number`), and a lexeme that is
found makes such a piece (`laid_of_lexes`).
-/

namespace GridRobot

namespace BoardFile

variable {b : UInt8} {c : Char} {r : Rune} {rs : List Rune} {t v : Text} {w : Word} {n : Nat}

/-! ## Keywords -/

/-- The capital that a letter is a form of. The long s is a form of S, as are both letters s. -/
def capital (c : Char) : Char :=
  if c = 'ſ' then 'S' else c.toUpper

/-- Whether letters spell a keyword: each letter is in either case. A long s may stand for any S but
the first letter. -/
def Word.SpeltBy (w : Word) (letters : List Char) : Prop :=
  letters.map capital = w.letters ∧ letters.head? ≠ some 'ſ'

theorem Word.longS_notMem (w : Word) : 'ſ' ∉ w.letters := by
  cases w <;> decide

/-- No two keywords begin with the same letter. -/
theorem Word.eq_of_head? {w w' : Word} (h : w.letters.head? = w'.letters.head?) : w = w' := by
  cases w <;> cases w' <;> first | rfl | exact absurd h (by decide)

/-- Letters of ASCII in either case spell a keyword. -/
theorem Word.speltBy_of_toUpper {letters : List Char} (h : letters.map Char.toUpper = w.letters) :
    w.SpeltBy letters := by
  have hplain (c : Char) (hc : c ∈ letters) : c ≠ 'ſ' := by
    rintro rfl
    have hmem : 'ſ'.toUpper ∈ w.letters := h ▸ List.mem_map_of_mem hc
    exact w.longS_notMem hmem
  refine ⟨?_, fun hhead => hplain 'ſ' (List.mem_of_mem_head? hhead) rfl⟩
  rw [← h]
  exact List.map_congr_left fun c hc => if_neg (hplain c hc)

theorem isFormOf_iff {letter : Char} (hletter : letter ≠ 'ſ') :
    isFormOf letter (.char c) = true ↔ capital c = letter := by
  unfold isFormOf capital
  dsimp only
  by_cases hc : c = 'ſ'
  · have hup : ('ſ'.toUpper == letter) = false := by
      rw [beq_eq_false_iff_ne]
      exact hletter.symm
    rw [if_pos hc, hc, hup, Bool.false_or, beq_self_eq_true, Bool.and_true, beq_iff_eq, eq_comm]
  · simp [hc]

theorem spells_nil_iff : spells [] rs = true ↔ ∀ r ∈ rs.head?, isWordRune r = false := by
  cases rs <;> simp [spells]

/-- Runes that spell a keyword are its letters, and no word goes on after them. -/
theorem spells_iff {cs : List Char} (hcs : 'ſ' ∉ cs) :
    spells cs rs = true ↔ ∃ letters rest, rs = List.map Rune.char letters ++ rest ∧
      letters.map capital = cs ∧ ∀ r ∈ rest.head?, isWordRune r = false := by
  induction cs generalizing rs with
  | nil =>
    rw [spells_nil_iff]
    constructor
    · intro hrs
      exact ⟨[], rs, rfl, rfl, hrs⟩
    · rintro ⟨letters, rest, rfl, hletters, hrest⟩
      rw [List.map_eq_nil_iff.1 hletters]
      exact hrest
  | cons c cs ih =>
    rw [List.mem_cons, not_or] at hcs
    constructor
    · intro hspells
      rcases rs with _ | ⟨c' | _, rs⟩
      · cases hspells
      · rw [spells, Bool.and_eq_true, isFormOf_iff (Ne.symm hcs.1), ih hcs.2] at hspells
        obtain ⟨hc, letters, rest, rfl, hletters, hrest⟩ := hspells
        exact ⟨c' :: letters, rest, rfl, by rw [List.map_cons, hc, hletters], hrest⟩
      · cases hspells
    · rintro ⟨letters, rest, rfl, hletters, hrest⟩
      obtain ⟨c', letters, rfl, hc, hletters⟩ := List.map_eq_cons_iff.1 hletters
      rw [List.map_cons, List.cons_append, spells, Bool.and_eq_true,
        isFormOf_iff (Ne.symm hcs.1), ih hcs.2]
      exact ⟨hc, letters, rest, rfl, hletters, hrest⟩

theorem isAlpha_iff (c : Char) : c.isAlpha = true ↔
    (65 ≤ c.toNat ∧ c.toNat ≤ 90) ∨ (97 ≤ c.toNat ∧ c.toNat ≤ 122) := by
  change (decide (c.val ≥ 65 ∧ c.val ≤ 90) || (decide (c.val ≥ 97) && decide (c.val ≤ 122))) =
    true ↔ _
  rw [Bool.or_eq_true, Bool.and_eq_true, decide_eq_true_iff, decide_eq_true_iff, decide_eq_true_iff]
  simp only [ge_iff_le, UInt32.le_iff_toNat_le]
  rfl

theorem isDigit_iff (c : Char) : c.isDigit = true ↔ 48 ≤ c.toNat ∧ c.toNat ≤ 57 := by
  change (decide (c.val ≥ 48) && decide (c.val ≤ 57)) = true ↔ _
  rw [Bool.and_eq_true, decide_eq_true_iff, decide_eq_true_iff]
  simp only [ge_iff_le, UInt32.le_iff_toNat_le]
  rfl

/-- A letter of a keyword is one of ASCII, unless it is the long s. -/
theorem Word.isAlpha (h : capital c ∈ w.letters) (hc : c ≠ 'ſ') : c.isAlpha = true := by
  have hletters : w.letters.all Char.isUpper = true := by
    cases w <;> rfl
  rw [capital, if_neg hc] at h
  have hupper : c.toUpper.isUpper = true := List.all_eq_true.1 hletters _ h
  by_cases hlower : c.isLower = true
  · exact Bool.or_eq_true_iff.2 (.inr hlower)
  · have hsame : c.toUpper = c := dif_neg fun hrange =>
      hlower (Bool.and_eq_true_iff.2 ⟨decide_eq_true hrange.1, decide_eq_true hrange.2⟩)
    rw [hsame] at hupper
    exact Bool.or_eq_true_iff.2 (.inl hupper)

theorem Word.exists_cons {letters : List Char} (h : letters.map capital = w.letters) :
    ∃ c cs, letters = c :: cs := by
  rcases letters with _ | ⟨c, cs⟩
  · cases w <;> cases h
  · exact ⟨c, cs, rfl⟩

/-- Runes that spell a keyword begin with a form of its first letter. -/
theorem Word.exists_char_of_spells (h : spells w.letters (r :: rs) = true) :
    ∃ c, r = .char c ∧ w.letters.head? = some (capital c) := by
  obtain ⟨letters, rest, hrs, hletters, -⟩ := (spells_iff w.longS_notMem).1 h
  obtain ⟨c, cs, rfl⟩ := Word.exists_cons hletters
  rw [List.map_cons, List.cons_append, List.cons.injEq] at hrs
  exact ⟨c, hrs.1, by rw [← hletters]; rfl⟩

theorem Word.eq_of_spells {w' : Word} (h : spells w.letters (r :: rs) = true)
    (h' : spells w'.letters (r :: rs) = true) : w = w' := by
  obtain ⟨c, rfl, hc⟩ := w.exists_char_of_spells h
  obtain ⟨c', hcc', hc'⟩ := w'.exists_char_of_spells h'
  cases hcc'
  exact Word.eq_of_head? (hc.trans hc'.symm)

theorem keyword?_eq_some_iff : keyword? r rs = some w ↔
    isWordRune r = true ∧ spells w.letters (r :: rs) = true := by
  unfold keyword?
  split_ifs with hword
  · constructor
    · intro hfind
      have hspells := List.find?_some hfind
      exact ⟨hword, hspells⟩
    · rintro ⟨-, hspells⟩
      rcases hfind : Word.all.find? fun w => spells w.letters (r :: rs) with _ | w'
      · exact absurd hspells (List.find?_eq_none.1 hfind w (by cases w <;> decide))
      · have hspells' := List.find?_some hfind
        rw [Word.eq_of_spells hspells hspells']
        exact hfind
  · simp [hword]

/-- The keyword that is found is the one whose letters are there, with no word going on after
them. -/
theorem keyword?_iff_speltBy : keyword? r rs = some w ↔
    ∃ letters rest, r :: rs = List.map Rune.char letters ++ rest ∧ w.SpeltBy letters ∧
      ∀ r ∈ rest.head?, isWordRune r = false := by
  rw [keyword?_eq_some_iff, spells_iff w.longS_notMem]
  constructor
  · rintro ⟨hword, letters, rest, hrs, hletters, hrest⟩
    refine ⟨letters, rest, hrs, ⟨hletters, fun hhead => ?_⟩, hrest⟩
    obtain ⟨cs, rfl⟩ := List.head?_eq_some_iff.1 hhead
    rw [List.map_cons, List.cons_append, List.cons.injEq] at hrs
    rw [hrs.1] at hword
    exact absurd hword (by decide)
  · rintro ⟨letters, rest, hrs, ⟨hletters, hhead⟩, hrest⟩
    refine ⟨?_, letters, rest, hrs, hletters, hrest⟩
    obtain ⟨c, cs, rfl⟩ := Word.exists_cons hletters
    rw [List.map_cons, List.cons_append, List.cons.injEq] at hrs
    have halpha : c.isAlpha = true := by
      refine w.isAlpha (hletters ▸ List.mem_cons_self) ?_
      rintro rfl
      exact hhead rfl
    rw [hrs.1]
    simp [isWordRune, Char.isAlphanum, halpha]

/-! ## Bytes of each kind -/

/-- Whether a byte goes on with a word: a letter, a digit or an underscore. -/
def isWordByte (b : UInt8) : Bool :=
  Text.isDigit b || (65 ≤ b && b ≤ 90) || (97 ≤ b && b ≤ 122) || b = 95

/-- Whether a byte is white space: a space, a tab, a line feed, a carriage return or a form feed. -/
def isGapByte (b : UInt8) : Bool :=
  b ∈ ([32, 9, 10, 13, 12] : List UInt8)

theorem forall_byte {P : UInt8 → Prop} (h : ∀ n < 256, P (UInt8.ofNat n)) (b : UInt8) : P b := by
  have hb := h b.toNat b.toNat_lt
  rwa [UInt8.ofNat_toNat] at hb

theorem isWordRune_ascii (b : UInt8) : isWordRune (Text.ascii b) = isWordByte b := by
  revert b
  refine forall_byte ?_
  decide +kernel

theorem isDigitRune_ascii (b : UInt8) : isDigitRune (Text.ascii b) = Text.isDigit b := by
  revert b
  refine forall_byte ?_
  decide +kernel

theorem isGapRune_ascii (b : UInt8) : isGapRune (Text.ascii b) = isGapByte b := by
  revert b
  refine forall_byte ?_
  decide +kernel

theorem low_of_isWordRune (h : isWordRune r = true) : ∃ c, r = .char c ∧ c.toNat < 0x80 := by
  rcases r with c | _
  · refine ⟨c, rfl, ?_⟩
    simp only [isWordRune, Char.isAlphanum, Bool.or_eq_true, isAlpha_iff, isDigit_iff,
      beq_iff_eq] at h
    rcases h with (h | h) | rfl
    · omega
    · omega
    · decide
  · cases h

theorem isWordRune_of_isDigitRune (h : isDigitRune r = true) : isWordRune r = true := by
  rcases r with c | _
  · have hdigit : c.isDigit = true := h
    simp [isWordRune, Char.isAlphanum, hdigit]
  · cases h

theorem low_of_isDigitRune (h : isDigitRune r = true) : ∃ c, r = .char c ∧ c.toNat < 0x80 :=
  low_of_isWordRune (isWordRune_of_isDigitRune h)

theorem isGapRune_iff : isGapRune r = true ↔
    r = .char ' ' ∨ r = .char '\t' ∨ r = .char '\n' ∨ r = .char '\r' ∨ r = .char '\x0c' := by
  cases r <;> simp [isGapRune, or_assoc]

/-! ## Lexemes -/

theorem take_runLength (p : Rune → Bool) (rs : List Rune) :
    rs.take (runLength p rs) = rs.takeWhile p := by
  calc rs.take (runLength p rs)
      = (rs.takeWhile p ++ rs.dropWhile p).take (rs.takeWhile p).length := by
        rw [List.takeWhile_append_dropWhile]
        rfl
    _ = rs.takeWhile p := List.take_left

theorem drop_runLength (p : Rune → Bool) (rs : List Rune) :
    rs.drop (runLength p rs) = rs.dropWhile p := by
  calc rs.drop (runLength p rs)
      = (rs.takeWhile p ++ rs.dropWhile p).drop (rs.takeWhile p).length := by
        rw [List.takeWhile_append_dropWhile]
        rfl
    _ = rs.dropWhile p := List.drop_left

theorem lexeme?_comment (rs : List Rune) :
    lexeme? (.char '#') rs = some (.comment, runLength (· ≠ .char '\n') rs) :=
  if_pos rfl

theorem lexeme?_keyword (h : keyword? r rs = some w) :
    lexeme? r rs = some (.keyword w, w.letters.length - 1) := by
  have hr : r ≠ .char '#' := by
    rintro rfl
    exact absurd (keyword?_eq_some_iff.1 h).1 (by decide)
  rw [lexeme?, if_neg hr, h]

theorem lexeme?_gap (h : isGapRune r = true) (rs : List Rune) :
    lexeme? r rs = some (.gap, runLength isGapRune rs) := by
  rcases isGapRune_iff.1 h with rfl | rfl | rfl | rfl | rfl <;>
    simp [lexeme?, keyword?, isWordRune, isDigitRune, isGapRune]

/-- No keyword begins with a digit. -/
theorem keyword?_of_isDigitRune (h : isDigitRune r = true) (rs : List Rune) :
    keyword? r rs = none := by
  rcases hkeyword : keyword? r rs with _ | w
  · rfl
  · obtain ⟨c, rfl, hc⟩ := w.exists_char_of_spells (keyword?_eq_some_iff.1 hkeyword).2
    have halpha : c.isAlpha = true := by
      refine w.isAlpha (List.mem_of_mem_head? hc) ?_
      rintro rfl
      exact absurd h (by decide)
    have hdigit : c.isDigit = true := h
    rw [isDigit_iff] at hdigit
    rw [isAlpha_iff] at halpha
    omega

/-- Whether a numeral begins with `r :: rs`: with a digit, or with a sign and a digit. -/
def startsNumeral (r : Rune) (rs : List Rune) : Prop :=
  isDigitRune r = true ∨
    (r = .char '+' ∨ r = .char '-') ∧ rs.head?.any isDigitRune = true

theorem lexeme?_number (h : startsNumeral r rs) :
    lexeme? r rs = some (.number, runLength isDigitRune rs) := by
  rcases h with h | ⟨hsign, hdigit⟩
  · have hr : r ≠ .char '#' := by
      rintro rfl
      exact absurd h (by decide)
    rw [lexeme?, if_neg hr, keyword?_of_isDigitRune h, if_pos h]
  · rcases hsign with rfl | rfl <;> simp [lexeme?, keyword?, isWordRune, isDigitRune, hdigit]

/-- What a lexeme may be that is found. -/
theorem lexeme?_cases {lexeme : Lexeme} (h : lexeme? r rs = some (lexeme, n)) :
    (r = .char '#' ∧ lexeme = .comment ∧ n = runLength (· ≠ .char '\n') rs) ∨
      (∃ w, keyword? r rs = some w ∧ lexeme = .keyword w ∧ n = w.letters.length - 1) ∨
      (startsNumeral r rs ∧ lexeme = .number ∧ n = runLength isDigitRune rs) ∨
      (isGapRune r = true ∧ lexeme = .gap ∧ n = runLength isGapRune rs) := by
  by_cases hcomment : r = .char '#'
  · rw [lexeme?, if_pos hcomment] at h
    cases h
    exact .inl ⟨hcomment, rfl, rfl⟩
  · rw [lexeme?, if_neg hcomment] at h
    rcases hkeyword : keyword? r rs with _ | w <;> rw [hkeyword] at h
    · dsimp only at h
      split_ifs at h with hdigit hsign hgap
      · cases h
        exact .inr (.inr (.inl ⟨.inl hdigit, rfl, rfl⟩))
      · cases h
        rw [Bool.and_eq_true, Bool.or_eq_true, decide_eq_true_iff, decide_eq_true_iff] at hsign
        exact .inr (.inr (.inl ⟨.inr hsign, rfl, rfl⟩))
      · cases h
        exact .inr (.inr (.inr ⟨hgap, rfl, rfl⟩))
    · cases h
      exact .inr (.inl ⟨w, rfl, rfl, rfl⟩)

/-! ## Pieces -/

/-- A token without its place. -/
abbrev Piece := TokenKind × Text

/-- What a token is, wherever it stands. -/
def Token.piece (t : Token) : Piece :=
  (t.kind, t.text)

/-- The pieces that a scan of runes finds. -/
inductive Lexes : List Rune → List Piece → Prop where
  | nil : Lexes [] []
  | skip {r : Rune} {rs : List Rune} {lexeme : Lexeme} {n : Nat} {ps : List Piece}
      (hlexeme : lexeme? r rs = some (lexeme, n)) (hkind : lexeme.kind? = none)
      (hrest : Lexes (rs.drop n) ps) : Lexes (r :: rs) ps
  | token {r : Rune} {rs : List Rune} {lexeme : Lexeme} {n : Nat} {kind : TokenKind}
      {ps : List Piece} (hlexeme : lexeme? r rs = some (lexeme, n))
      (hkind : lexeme.kind? = some kind) (hrest : Lexes (rs.drop n) ps) :
      Lexes (r :: rs) ((kind, (r :: rs.take n).flatMap Rune.bytes) :: ps)

variable {ps : List Piece}

theorem Lexes.exists_scanOnto (h : Lexes rs ps) (read : List Token) (place gap : Place) :
    ∃ out, scanOnto read place gap rs = .ok out ∧
      out.tokens.map Token.piece = read.reverse.map Token.piece ++ ps := by
  induction h generalizing read place gap with
  | nil => exact ⟨⟨read.reverse, place⟩, by rw [scanOnto], by simp⟩
  | skip hlexeme hkind _ ih =>
    rw [scanOnto, hlexeme]
    dsimp only
    rw [hkind]
    exact ih read _ gap
  | @token r rs lexeme n kind ps hlexeme hkind _ ih =>
    rw [scanOnto, hlexeme]
    dsimp only
    rw [hkind]
    dsimp only
    obtain ⟨out, hout, hpieces⟩ := ih
      (⟨kind, (r :: rs.take n).flatMap Rune.bytes, place, gap⟩ :: read)
      ((r :: rs.take n).foldl Place.after place) ((r :: rs.take n).foldl Place.after place)
    refine ⟨out, hout, hpieces.trans ?_⟩
    simp [Token.piece]

theorem exists_lexes_of_scanOnto {read : List Token} {place gap : Place} {out : Tokens}
    (h : scanOnto read place gap rs = .ok out) :
    ∃ ps, Lexes rs ps ∧ out.tokens.map Token.piece = read.reverse.map Token.piece ++ ps := by
  fun_induction scanOnto read place gap rs with
  | case1 read place gap =>
    cases h
    exact ⟨[], .nil, by simp⟩
  | case2 => cases h
  | case3 read place gap r rs lexeme n hlexeme taken next hkind ih =>
    obtain ⟨ps, hlexes, hpieces⟩ := ih h
    exact ⟨ps, .skip hlexeme hkind hlexes, hpieces⟩
  | case4 read place gap r rs lexeme n hlexeme taken next kind hkind ih =>
    obtain ⟨ps, hlexes, hpieces⟩ := ih h
    refine ⟨_, .token hlexeme hkind hlexes, hpieces.trans ?_⟩
    simp [Token.piece, taken]

/-! ## Layout of pieces -/

/-- A sign, if any, and at least one decimal digit. -/
def IsNumeral (t : Text) : Prop :=
  ∃ sign digits, t = sign ++ digits ∧ (sign = [] ∨ sign = [43] ∨ sign = [45]) ∧ digits ≠ [] ∧
    ∀ b ∈ digits, Text.isDigit b = true

/-- Whether a piece is written as its kind is: a keyword in some spelling, or a numeral. -/
inductive Spelt : Piece → Prop where
  | keyword {w : Word} {letters : List Char} (h : w.SpeltBy letters) :
      Spelt (.keyword w, letters.flatMap Text.ofChar)
  | number {t : Text} (h : IsNumeral t) : Spelt (.number, t)

/-- Whether a piece would go on with a byte if that came right after it. -/
def TokenKind.goesOn : TokenKind → UInt8 → Bool
  | keyword _, b => isWordByte b
  | number, b => Text.isDigit b

/-- How pieces are laid out in a text: with white space and comments before and after them, and such
that none goes on with what follows it. A comment goes from a number sign to the end of its line. -/
inductive Laid : List Piece → Text → Prop where
  | done : Laid [] []
  | blank {b : UInt8} {t : Text} {ps : List Piece} (hb : isGapByte b = true) (hrest : Laid ps t) :
      Laid ps (b :: t)
  | comment {body t : Text} {ps : List Piece} (hbody : 10 ∉ body) (hend : ∀ b ∈ t.head?, b = 10)
      (hrest : Laid ps t) : Laid ps (35 :: (body ++ t))
  | piece {p : Piece} {t : Text} {ps : List Piece} (hp : Spelt p)
      (hend : ∀ b ∈ t.head?, p.1.goesOn b = false) (hrest : Laid ps t) : Laid (p :: ps) (p.2 ++ t)

theorem isNumeral_iff : IsNumeral t ↔ ∃ b u, t = b :: u ∧ (∀ a ∈ u, Text.isDigit a = true) ∧
    (Text.isDigit b = true ∨ (b = 43 ∨ b = 45) ∧ u ≠ []) := by
  constructor
  · rintro ⟨sign, digits, rfl, hsign, hne, hdigits⟩
    rcases hsign with rfl | rfl | rfl
    · obtain ⟨b, u, rfl⟩ := List.exists_cons_of_ne_nil hne
      rw [List.forall_mem_cons] at hdigits
      exact ⟨b, u, rfl, hdigits.2, .inl hdigits.1⟩
    · exact ⟨43, digits, rfl, hdigits, .inr ⟨.inl rfl, hne⟩⟩
    · exact ⟨45, digits, rfl, hdigits, .inr ⟨.inr rfl, hne⟩⟩
  · rintro ⟨b, u, rfl, hu, hb | ⟨hb, hne⟩⟩
    · exact ⟨[], b :: u, rfl, .inl rfl, List.cons_ne_nil b u, List.forall_mem_cons.2 ⟨hb, hu⟩⟩
    · refine ⟨[b], u, rfl, .inr ?_, hne, hu⟩
      rcases hb with rfl | rfl
      · exact .inl rfl
      · exact .inr rfl

theorem low_of_isDigit (h : Text.isDigit b = true) : b.toNat < 0x80 := by
  have hle : b.toNat ≤ 57 := by
    simp only [Text.isDigit, Bool.and_eq_true, decide_eq_true_eq, UInt8.le_iff_toNat_le] at h
    exact h.2
  omega

theorem low_of_isNumeral (h : IsNumeral t) : ∀ b ∈ t, b.toNat < 0x80 := by
  obtain ⟨sign, digits, rfl, hsign, -, hdigits⟩ := h
  intro b hb
  rcases List.mem_append.1 hb with hb | hb
  · rcases hsign with rfl | rfl | rfl
    · cases hb
    · rw [List.mem_singleton.1 hb]
      decide
    · rw [List.mem_singleton.1 hb]
      decide
  · exact low_of_isDigit (hdigits b hb)

theorem low_of_isGapByte (h : isGapByte b = true) : b.toNat < 0x80 := by
  have hmem : b = 32 ∨ b = 9 ∨ b = 10 ∨ b = 13 ∨ b = 12 := by simpa [isGapByte] using h
  rcases hmem with rfl | rfl | rfl | rfl | rfl <;> decide

theorem flatMap_bytes_char (letters : List Char) :
    (letters.map Rune.char).flatMap Rune.bytes = letters.flatMap Text.ofChar := by
  rw [List.flatMap_map]
  rfl

theorem forall_head_isWordRune :
    (∀ r ∈ t.runes.head?, isWordRune r = false) ↔ ∀ b ∈ t.head?, isWordByte b = false := by
  rw [Text.forall_head_runes fun _ => low_of_isWordRune]
  simp only [isWordRune_ascii]

theorem forall_head_isDigitRune :
    (∀ r ∈ t.runes.head?, isDigitRune r = false) ↔ ∀ b ∈ t.head?, Text.isDigit b = false := by
  rw [Text.forall_head_runes fun _ => low_of_isDigitRune]
  simp only [isDigitRune_ascii]

theorem forall_head_lineFeed :
    (∀ r ∈ t.runes.head?, r = .char '\n') ↔ ∀ b ∈ t.head?, b = 10 := by
  cases t with
  | nil => simp
  | cons b t =>
    simp only [Text.runes_cons, List.head?_cons, Option.mem_def, Option.some.injEq, forall_eq']
    constructor
    · intro hrune
      have hbytes := Text.bytes_nextRune b t
      rw [hrune] at hbytes
      exact (List.cons.inj hbytes).1.symm
    · rintro rfl
      rw [Text.nextRune_of_lt (by decide)]
      rfl

/-- A text of runes none of which is a line feed has no line feed among its bytes. -/
theorem lineFeed_notMem_bytes (hsub : rs ⊆ t.runes) (hrs : ∀ r ∈ rs, r ≠ .char '\n') :
    10 ∉ rs.flatMap Rune.bytes := by
  intro hmem
  obtain ⟨r, hr, hbyte⟩ := List.mem_flatMap.1 hmem
  exact hrs r hr (Text.eq_ascii_of_mem_bytes (hsub hr) hbyte (by decide))

/-! ## What is laid out is found -/

namespace Lexes

theorem of_gap (hr : isGapRune r = true) (h : Lexes rs ps) : Lexes (r :: rs) ps := by
  refine .skip (lexeme?_gap hr rs) rfl ?_
  rw [drop_runLength]
  rcases rs with _ | ⟨r', rs⟩
  · exact h
  · by_cases hr' : isGapRune r' = true
    · -- the white space after `r` is skipped together with it
      rw [List.dropWhile_cons_of_pos hr', ← drop_runLength]
      cases h with
      | skip hlexeme _ hrest =>
        rw [lexeme?_gap hr'] at hlexeme
        cases hlexeme
        exact hrest
      | token hlexeme hkind =>
        rw [lexeme?_gap hr'] at hlexeme
        cases hlexeme
        cases hkind
    · rw [List.dropWhile_cons_of_neg hr']
      exact h

theorem of_comment {body : List Rune} (hbody : ∀ r ∈ body, r ≠ .char '\n')
    (hend : ∀ r ∈ rs.head?, r = .char '\n') (h : Lexes rs ps) :
    Lexes (.char '#' :: (body ++ rs)) ps := by
  refine .skip (lexeme?_comment _) rfl ?_
  rw [drop_runLength, List.dropWhile_append_of_pos (by simpa using hbody)]
  rcases rs with _ | ⟨r, rs⟩
  · exact h
  · obtain rfl : r = .char '\n' := hend r rfl
    rw [List.dropWhile_cons_of_neg (by simp)]
    exact h

theorem of_keyword {letters : List Char} (hw : w.SpeltBy letters)
    (hend : ∀ r ∈ rs.head?, isWordRune r = false) (h : Lexes rs ps) :
    Lexes (letters.map .char ++ rs) ((.keyword w, letters.flatMap Text.ofChar) :: ps) := by
  obtain ⟨c, cs, rfl⟩ := Word.exists_cons hw.1
  have hkeyword : keyword? (.char c) (cs.map .char ++ rs) = some w :=
    keyword?_iff_speltBy.2 ⟨c :: cs, rs, rfl, hw, hend⟩
  have hlength : w.letters.length - 1 = (cs.map Rune.char).length := by
    rw [← hw.1]
    simp
  have hrest : Lexes ((cs.map Rune.char ++ rs).drop (w.letters.length - 1)) ps := by
    rw [hlength, List.drop_left]
    exact h
  have htoken := Lexes.token (lexeme?_keyword hkeyword) rfl hrest
  rw [hlength, List.take_left, ← List.map_cons, flatMap_bytes_char] at htoken
  exact htoken

theorem of_numeral (ht : IsNumeral t) (hend : ∀ r ∈ rs.head?, isDigitRune r = false)
    (h : Lexes rs ps) : Lexes (t.map Text.ascii ++ rs) ((.number, t) :: ps) := by
  obtain ⟨b, u, rfl, hu, hb⟩ := isNumeral_iff.1 ht
  have hdigits : ∀ r ∈ u.map Text.ascii, isDigitRune r = true := by
    intro r hr
    obtain ⟨a, ha, rfl⟩ := List.mem_map.1 hr
    rw [isDigitRune_ascii]
    exact hu a ha
  have hstart : startsNumeral (Text.ascii b) (u.map Text.ascii ++ rs) := by
    rcases hb with hb | ⟨hb, hne⟩
    · exact .inl (by rw [isDigitRune_ascii, hb])
    · obtain ⟨a, u, rfl⟩ := List.exists_cons_of_ne_nil hne
      refine .inr ⟨?_, ?_⟩
      · rcases hb with rfl | rfl
        · exact .inl rfl
        · exact .inr rfl
      · simpa [isDigitRune_ascii] using hu a List.mem_cons_self
  have hrun : (u.map Text.ascii ++ rs).takeWhile isDigitRune = u.map Text.ascii := by
    rw [List.takeWhile_append_of_pos hdigits]
    rcases rs with _ | ⟨r, rs⟩
    · simp
    · rw [List.takeWhile_cons_of_neg (by simpa using hend r rfl), List.append_nil]
  have hlength : runLength isDigitRune (u.map Text.ascii ++ rs) = (u.map Text.ascii).length := by
    rw [runLength, hrun]
  have hrest : Lexes ((u.map Text.ascii ++ rs).drop
      (runLength isDigitRune (u.map Text.ascii ++ rs))) ps := by
    rw [hlength, List.drop_left]
    exact h
  have htoken := Lexes.token (lexeme?_number hstart) rfl hrest
  rw [hlength, List.take_left, ← List.map_cons,
    Text.flatMap_bytes_ascii (low_of_isNumeral ht)] at htoken
  exact htoken

end Lexes

theorem lexes_of_laid (h : Laid ps t) : Lexes t.runes ps := by
  induction h with
  | done =>
    rw [Text.runes_nil]
    exact .nil
  | @blank b t ps hb _ ih =>
    rw [Text.runes_ascii (low_of_isGapByte hb)]
    exact ih.of_gap (by rw [isGapRune_ascii, hb])
  | @comment body t ps hbody hend _ ih =>
    have hstart : ∀ b ∈ t.head?, Text.within 0x80 0xBF b = false := by
      intro b hb
      rw [hend b hb]
      decide
    rw [Text.runes_ascii (by decide), Text.runes_append body hstart]
    refine Lexes.of_comment ?_ (forall_head_lineFeed.2 hend) ih
    rintro r hr rfl
    apply hbody
    rw [← Text.flatMap_bytes_runes body]
    exact List.mem_flatMap.2 ⟨_, hr, by decide⟩
  | @piece p t ps hp hend _ ih =>
    cases hp with
    | keyword hw =>
      rw [Text.runes_flatMap_ofChar_append]
      exact ih.of_keyword hw (forall_head_isWordRune.2 hend)
    | number ht =>
      dsimp only
      rw [Text.runes_ascii_append (low_of_isNumeral ht)]
      exact ih.of_numeral ht (forall_head_isDigitRune.2 hend)

/-! ## What is found is laid out -/

/-- White space may be skipped rune by rune. -/
theorem Laid.of_gap (hrs : ∀ r ∈ rs, isGapRune r = true) (h : Laid ps t) :
    Laid ps (rs.flatMap Rune.bytes ++ t) := by
  induction rs with
  | nil => exact h
  | cons r rs ih =>
    rw [List.forall_mem_cons] at hrs
    rw [List.flatMap_cons, List.append_assoc]
    rcases isGapRune_iff.1 hrs.1 with rfl | rfl | rfl | rfl | rfl <;>
      exact .blank (by decide) (ih hrs.2)

theorem head_dropWhile (p : Rune → Bool) (rs : List Rune) :
    ∀ r ∈ (rs.dropWhile p).head?, p r = false := by
  intro r hr
  have hhead := List.head?_dropWhile_not p rs
  rw [Option.mem_def.1 hr] at hhead
  exact hhead

theorem forall_mem_takeWhile (p : Rune → Bool) (rs : List Rune) :
    ∀ r ∈ rs.takeWhile p, p r = true :=
  List.all_eq_true.1 List.all_takeWhile

/-- Digits of ASCII take a byte each. -/
theorem exists_digits (h : ∀ r ∈ rs, isDigitRune r = true) :
    ∃ u : Text, rs = u.map Text.ascii ∧ ∀ b ∈ u, Text.isDigit b = true := by
  induction rs with
  | nil => exact ⟨[], rfl, by simp⟩
  | cons r rs ih =>
    rw [List.forall_mem_cons] at h
    obtain ⟨u, rfl, hu⟩ := ih h.2
    obtain ⟨c, rfl, hc⟩ := low_of_isDigitRune h.1
    rw [← Text.ascii_ofNat hc, isDigitRune_ascii] at h
    exact ⟨UInt8.ofNat c.toNat :: u, by rw [List.map_cons, Text.ascii_ofNat hc],
      List.forall_mem_cons.2 ⟨h.1, hu⟩⟩

theorem isNumeral_of_startsNumeral (h : startsNumeral r rs) :
    IsNumeral ((r :: rs.takeWhile isDigitRune).flatMap Rune.bytes) := by
  have hrun := forall_mem_takeWhile isDigitRune rs
  rcases h with hr | ⟨hsign, hdigit⟩
  · obtain ⟨u, hu, hdigits⟩ := exists_digits (List.forall_mem_cons.2 ⟨hr, hrun⟩)
    rw [hu, Text.flatMap_bytes_ascii fun b hb => low_of_isDigit (hdigits b hb)]
    refine ⟨[], u, rfl, .inl rfl, ?_, hdigits⟩
    rintro rfl
    cases hu
  · obtain ⟨u, hu, hdigits⟩ := exists_digits hrun
    have hne : u ≠ [] := by
      rintro rfl
      rcases rs with _ | ⟨r', rs⟩
      · cases hdigit
      · have hr' : isDigitRune r' = true := hdigit
        rw [List.takeWhile_cons_of_pos hr'] at hu
        cases hu
    rw [List.flatMap_cons, hu, Text.flatMap_bytes_ascii fun b hb => low_of_isDigit (hdigits b hb)]
    rcases hsign with rfl | rfl
    · exact ⟨[43], u, rfl, .inr (.inl rfl), hne, hdigits⟩
    · exact ⟨[45], u, rfl, .inr (.inr rfl), hne, hdigits⟩

namespace Laid

theorem of_comment (hsub : rs ⊆ t.runes)
    (hv : v.runes = rs.drop (runLength (· ≠ .char '\n') rs)) (h : Laid ps v) :
    Laid ps ((.char '#' :: rs.take (runLength (· ≠ .char '\n') rs)).flatMap Rune.bytes ++ v) := by
  rw [drop_runLength] at hv
  rw [take_runLength]
  refine .comment ?_ (forall_head_lineFeed.1 fun r hr => ?_) h
  · refine lineFeed_notMem_bytes (List.Subset.trans (List.takeWhile_subset _) hsub) fun r hr => ?_
    simpa using forall_mem_takeWhile _ rs r hr
  · rw [hv] at hr
    simpa using head_dropWhile _ rs r hr

theorem of_keyword (hw : keyword? r rs = some w) (hv : v.runes = rs.drop (w.letters.length - 1))
    (h : Laid ps v) :
    Laid ((.keyword w, (r :: rs.take (w.letters.length - 1)).flatMap Rune.bytes) :: ps)
      ((r :: rs.take (w.letters.length - 1)).flatMap Rune.bytes ++ v) := by
  obtain ⟨letters, rest, hrs, hspelt, hrest⟩ := keyword?_iff_speltBy.1 hw
  have hlength : w.letters.length - 1 + 1 = (letters.map Rune.char).length := by
    obtain ⟨c, cs, rfl⟩ := Word.exists_cons hspelt.1
    rw [← hspelt.1]
    simp
  have htaken : r :: rs.take (w.letters.length - 1) = letters.map .char := by
    rw [← List.take_succ_cons, hrs, hlength, List.take_left]
  have hleft : rs.drop (w.letters.length - 1) = rest := by
    rw [← @List.drop_succ_cons _ r, hrs, hlength, List.drop_left]
  rw [hleft] at hv
  rw [htaken, flatMap_bytes_char]
  exact .piece (.keyword hspelt) (forall_head_isWordRune.1 (hv ▸ hrest)) h

theorem of_numeral (hstart : startsNumeral r rs)
    (hv : v.runes = rs.drop (runLength isDigitRune rs)) (h : Laid ps v) :
    Laid ((.number, (r :: rs.take (runLength isDigitRune rs)).flatMap Rune.bytes) :: ps)
      ((r :: rs.take (runLength isDigitRune rs)).flatMap Rune.bytes ++ v) := by
  rw [drop_runLength] at hv
  rw [take_runLength]
  exact .piece (.number (isNumeral_of_startsNumeral hstart))
    (forall_head_isDigitRune.1 (hv ▸ head_dropWhile isDigitRune rs)) h

end Laid

theorem laid_of_lexes (h : Lexes rs ps) (ht : t.runes = rs) : Laid ps t := by
  induction h generalizing t with
  | nil =>
    have hbytes := Text.flatMap_bytes_runes t
    rw [ht] at hbytes
    rw [← hbytes]
    exact .done
  | @skip r rs lexeme n ps hlexeme hkind _ ih =>
    obtain ⟨v, hcut, hv⟩ := t.exists_cut (n + 1)
    rw [ht, List.take_succ_cons] at hcut
    rw [ht, List.drop_succ_cons] at hv
    rw [hcut]
    rcases lexeme?_cases hlexeme with ⟨rfl, -, rfl⟩ | ⟨w, -, rfl, -⟩ | ⟨-, rfl, -⟩ | ⟨hr, -, rfl⟩
    · exact (ih hv).of_comment (t := t) (ht ▸ List.subset_cons_self _ _) hv
    · cases hkind
    · cases hkind
    · rw [take_runLength]
      exact (ih hv).of_gap (List.forall_mem_cons.2 ⟨hr, forall_mem_takeWhile _ rs⟩)
  | @token r rs lexeme n kind ps hlexeme hkind _ ih =>
    obtain ⟨v, hcut, hv⟩ := t.exists_cut (n + 1)
    rw [ht, List.take_succ_cons] at hcut
    rw [ht, List.drop_succ_cons] at hv
    rw [hcut]
    rcases lexeme?_cases hlexeme with
      ⟨-, rfl, -⟩ | ⟨w, hw, rfl, rfl⟩ | ⟨hstart, rfl, rfl⟩ | ⟨-, rfl, -⟩
    · cases hkind
    · cases hkind
      exact (ih hv).of_keyword hw hv
    · cases hkind
      exact (ih hv).of_numeral hstart hv
    · cases hkind

/-- A scan finds the pieces that are laid out in a text, and fails if the text is no layout of
pieces. -/
theorem exists_scan_iff :
    (∃ out, scan t = .ok out ∧ out.tokens.map Token.piece = ps) ↔ Laid ps t := by
  constructor
  · rintro ⟨out, hscan, rfl⟩
    obtain ⟨ps, hlexes, hpieces⟩ := exists_lexes_of_scanOnto hscan
    have hpieces : out.tokens.map Token.piece = ps := hpieces
    rw [hpieces]
    exact laid_of_lexes hlexes rfl
  · intro hlaid
    exact (lexes_of_laid hlaid).exists_scanOnto [] .start .start

end BoardFile

end GridRobot
