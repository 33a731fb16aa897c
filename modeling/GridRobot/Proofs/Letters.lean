import GridRobot.Direction
import Mathlib.Tactic.SplitIfs

/-!
# Letters of either case

Words are raised to upper case before they are compared, some of them more than once on their way
through a line. This makes no difference: a text that was raised stays as it is when it is raised
again (`Text.upper_upper`).

For characters it is a property of the table. What a letter of the table rises to is not in the
table itself; the two sets of code points are compared as the bits of two numbers
(`CaseRun.letters_disjoint_raised`). For texts it takes, besides, that characters which were written
in UTF-8 are read again as they were (`Text.runes_flatMap_ofChar`).
-/

namespace GridRobot

theorem testBit_one_shiftLeft (m n : Nat) : (1 <<< m).testBit n = decide (m = n) := by
  rw [Nat.one_shiftLeft, Nat.testBit_two_pow]

/-- The set of some numbers, as the bits of one. -/
def bitsOf (ns : List Nat) : Nat :=
  ns.foldr (fun n bits => bits ||| 1 <<< n) 0

theorem testBit_bitsOf {ns : List Nat} {n : Nat} : (bitsOf ns).testBit n = true ↔ n ∈ ns := by
  induction ns with
  | nil => simp [bitsOf]
  | cons m ns ih =>
    have hcons : bitsOf (m :: ns) = bitsOf ns ||| 1 <<< m := rfl
    rw [hcons, Nat.testBit_or, testBit_one_shiftLeft, Bool.or_eq_true, ih, decide_eq_true_iff,
      List.mem_cons, or_comm, eq_comm]

/-! ## The table -/

namespace CaseRun

variable {r : CaseRun} {m n : Nat}

/-- The code points of a run. -/
def letters (r : CaseRun) : List Nat :=
  (List.range ((r.last - r.first) / r.step + 1)).map (r.first + r.step * ·)

/-- What the code points of a run are changed to. -/
def raised (r : CaseRun) : List Nat :=
  r.letters.map fun n => (Int.ofNat n + r.shift).toNat

theorem mem_letters_of_covers (h : r.covers n = true) : n ∈ r.letters := by
  simp only [covers, Bool.and_eq_true, decide_eq_true_eq, beq_iff_eq] at h
  obtain ⟨⟨hfirst, hlast⟩, hstep⟩ := h
  have hdiv := Nat.div_add_mod (n - r.first) r.step
  have hle : (n - r.first) / r.step ≤ (r.last - r.first) / r.step :=
    Nat.div_le_div_right (by omega)
  refine List.mem_map.2 ⟨(n - r.first) / r.step, List.mem_range.2 (by omega), ?_⟩
  omega

theorem letters_disjoint_raised :
    bitsOf (toUpper.flatMap letters) &&& bitsOf (toUpper.flatMap raised) = 0 := by
  decide +kernel

/-- What a letter rises to has no upper case of its own. -/
theorem not_covers_of_raised (hm : m ∈ toUpper.flatMap raised) (hr : r ∈ toUpper) :
    r.covers m = false := by
  refine Bool.eq_false_iff.2 fun hcovers => ?_
  have hletter : m ∈ toUpper.flatMap letters :=
    List.mem_flatMap.2 ⟨r, hr, mem_letters_of_covers hcovers⟩
  have hboth := congrArg (fun bits => bits.testBit m) letters_disjoint_raised
  simp [testBit_bitsOf.2 hletter, testBit_bitsOf.2 hm] at hboth

theorem apply_cases (n : Nat) :
    apply toUpper n = n ∨ apply toUpper n ∈ toUpper.flatMap raised := by
  unfold apply
  split
  · next r hfind =>
    have hcovers := List.find?_some hfind
    exact .inr (List.mem_flatMap.2 ⟨r, List.mem_of_find?_eq_some hfind,
      List.mem_map.2 ⟨n, mem_letters_of_covers hcovers, rfl⟩⟩)
  · exact .inl rfl

theorem apply_of_raised (hm : m ∈ toUpper.flatMap raised) : apply toUpper m = m := by
  have hnone : toUpper.find? (·.covers m) = none :=
    List.find?_eq_none.2 fun r hr => by simp [not_covers_of_raised hm hr]
  simp [apply, hnone]

/-- Letters rise to code points of characters, in ASCII to none of the lower case. -/
theorem isValidChar_of_raised : ∀ m ∈ toUpper.flatMap raised,
    m.isValidChar ∧ (m < 97 ∨ 128 ≤ m) := by
  decide +kernel

end CaseRun

namespace Text

variable {t : Text}

theorem upperChar_of_lt : ∀ n < 128,
    upperChar (upperChar (Char.ofNat n)) = upperChar (Char.ofNat n) ∧
      (n < 97 → upperChar (Char.ofNat n) = Char.ofNat n) := by
  decide +kernel

/-- A character that was raised stays as it is. -/
theorem upperChar_upperChar (c : Char) : upperChar (upperChar c) = upperChar c := by
  by_cases hascii : c.toNat < 128
  · have hc := (upperChar_of_lt c.toNat hascii).1
    rwa [Char.ofNat_toNat] at hc
  · have hc : upperChar c = Char.ofNat (CaseRun.apply CaseRun.toUpper c.toNat) := if_neg hascii
    rw [hc]
    rcases CaseRun.apply_cases c.toNat with hsame | hraised
    · rw [hsame, Char.ofNat_toNat, hc, hsame, Char.ofNat_toNat]
    · have hstays := CaseRun.apply_of_raised hraised
      obtain ⟨hvalid, hcase⟩ := CaseRun.isValidChar_of_raised _ hraised
      generalize CaseRun.apply CaseRun.toUpper c.toNat = m at hstays hvalid hcase
      have hcode : (Char.ofNat m).toNat = m := by
        rw [Char.ofNat, dif_pos hvalid]
        rfl
      rcases hcase with hlow | hhigh
      · exact (upperChar_of_lt m (by omega)).2 hlow
      · rw [upperChar, hcode, if_neg (by omega), hstays]

/-! ## Writing and reading UTF-8 -/

theorem within_iff {lo hi b : UInt8} :
    within lo hi b = true ↔ lo.toNat ≤ b.toNat ∧ b.toNat ≤ hi.toNat := by
  simp [within, UInt8.le_iff_toNat_le]

/-- A byte that goes on with a sequence may follow its first byte, outside of the ranges which that
byte leaves out. -/
theorem continues_of_bounds {b c : UInt8} (hc : 0x80 ≤ c.toNat ∧ c.toNat ≤ 0xBF)
    (hshort : b.toNat = 0xE0 → 0xA0 ≤ c.toNat) (hsurrogate : b.toNat = 0xED → c.toNat ≤ 0x9F)
    (hshort' : b.toNat = 0xF0 → 0x90 ≤ c.toNat) (hlast : b.toNat = 0xF4 → c.toNat ≤ 0x8F) :
    continues b c = true := by
  unfold continues
  split_ifs <;> simp_all [within_iff]

section Sequences

variable {n : Nat} {b c d e : UInt8}

theorem sequence?_of_one (hn : n < 0x80) (hb : b.toNat = n) (t : Text) :
    sequence? b t = some (n, t) := by
  have hfirst : b < 0x80 := UInt8.lt_iff_toNat_lt.2 (by simpa [hb] using hn)
  unfold sequence?
  rw [if_pos hfirst, hb]

theorem sequence?_of_two (hn : 0x80 ≤ n) (hn' : n < 0x800) (hb : b.toNat = n / 64 % 32 + 192)
    (hc : c.toNat = n % 64 + 128) (t : Text) : sequence? b (c :: t) = some (n, t) := by
  have hascii : ¬ b < 0x80 := by simp [UInt8.lt_iff_toNat_lt, hb]
  have hfirst : within 0xC2 0xDF b = true := within_iff.2 (by simp; omega)
  have hnext : continues b c = true :=
    continues_of_bounds (by omega) (by omega) (by omega) (by omega) (by omega)
  have hcode : b.toNat % 32 * 64 + low6 c = n := by
    unfold low6
    omega
  rw [sequence?, if_neg hascii, if_pos hfirst, if_pos hnext, hcode]

theorem sequence?_of_three (hn : 0x800 ≤ n) (hn' : n < 0x10000) (hvalid : n.isValidChar)
    (hb : b.toNat = n / 4096 % 16 + 224) (hc : c.toNat = n / 64 % 64 + 128)
    (hd : d.toNat = n % 64 + 128) (t : Text) : sequence? b (c :: d :: t) = some (n, t) := by
  have hascii : ¬ b < 0x80 := by simp [UInt8.lt_iff_toNat_lt, hb]
  have htwo : ¬ within 0xC2 0xDF b = true := by simp [within_iff, hb]
  have hfirst : within 0xE0 0xEF b = true := within_iff.2 (by simp; omega)
  have hnext : continues b c = true :=
    continues_of_bounds (by omega) (by omega) (by omega) (by omega) (by omega)
  have hthird : within 0x80 0xBF d = true := within_iff.2 (by simp; omega)
  have hcode : b.toNat % 16 * 4096 + low6 c * 64 + low6 d = n := by
    unfold low6
    omega
  rw [sequence?, if_neg hascii, if_neg htwo, if_pos hfirst]
  dsimp only
  rw [hnext, hthird, hcode]
  rfl

theorem sequence?_of_four (hn : 0x10000 ≤ n) (hvalid : n.isValidChar)
    (hb : b.toNat = n / 262144 % 8 + 240) (hc : c.toNat = n / 4096 % 64 + 128)
    (hd : d.toNat = n / 64 % 64 + 128) (he : e.toNat = n % 64 + 128) (t : Text) :
    sequence? b (c :: d :: e :: t) = some (n, t) := by
  have hascii : ¬ b < 0x80 := by simp [UInt8.lt_iff_toNat_lt, hb]
  have htwo : ¬ within 0xC2 0xDF b = true := by simp [within_iff, hb]
  have hthree : ¬ within 0xE0 0xEF b = true := by simp [within_iff, hb]
  have hfirst : within 0xF0 0xF4 b = true := within_iff.2 (by simp; omega)
  have hnext : continues b c = true :=
    continues_of_bounds (by omega) (by omega) (by omega) (by omega) (by omega)
  have hthird : within 0x80 0xBF d = true := within_iff.2 (by simp; omega)
  have hlast : within 0x80 0xBF e = true := within_iff.2 (by simp; omega)
  have hcode : b.toNat % 8 * 262144 + low6 c * 4096 + low6 d * 64 + low6 e = n := by
    unfold low6
    omega
  rw [sequence?, if_neg hascii, if_neg htwo, if_neg hthree, if_pos hfirst]
  dsimp only
  rw [hnext, hthird, hlast, hcode]
  rfl

end Sequences

/-- A character that was written is read off again, whatever comes after it. -/
theorem exists_nextRune_ofChar (c : Char) (t : Text) :
    ∃ b r, ofChar c ++ t = b :: r ∧ nextRune b r = (.char c, t) := by
  have hread {b : UInt8} {r : Text} (h : sequence? b r = some (c.toNat, t)) :
      nextRune b r = (.char c, t) := by
    rw [nextRune, h]
    dsimp only
    rw [Char.ofNat_toNat]
  have hbyte (k : Nat) (hk : k < 256) : (UInt8.ofNat k).toNat = k := UInt8.toNat_ofNat_of_lt' hk
  have hvalid : c.toNat.isValidChar := c.valid
  have hcode : c.val.toNat = c.toNat := rfl
  unfold ofChar String.utf8EncodeChar
  rw [hcode]
  generalize c.toNat = n at hread hvalid
  dsimp only
  split_ifs with h₁ h₂ h₃
  · exact ⟨_, _, rfl, hread (sequence?_of_one (by omega) (hbyte _ (by omega)) t)⟩
  · exact ⟨_, _, rfl, hread (sequence?_of_two (by omega) (by omega) (hbyte _ (by omega))
      (hbyte _ (by omega)) t)⟩
  · exact ⟨_, _, rfl, hread (sequence?_of_three (by omega) (by omega) hvalid (hbyte _ (by omega))
      (hbyte _ (by omega)) (hbyte _ (by omega)) t)⟩
  · exact ⟨_, _, rfl, hread (sequence?_of_four (by omega) hvalid (hbyte _ (by omega))
      (hbyte _ (by omega)) (hbyte _ (by omega)) (hbyte _ (by omega)) t)⟩

theorem runesOnto_flatMap_ofChar (read : List Rune) (cs : List Char) :
    runesOnto read (cs.flatMap ofChar) = read.reverse ++ cs.map .char := by
  induction cs generalizing read with
  | nil => simp [runesOnto]
  | cons c cs ih =>
    obtain ⟨b, r, hbytes, hnext⟩ := exists_nextRune_ofChar c (cs.flatMap ofChar)
    rw [List.flatMap_cons, hbytes, runesOnto, hnext, ih]
    simp

/-- Characters that were written are read as they were. -/
theorem runes_flatMap_ofChar (cs : List Char) : runes (cs.flatMap ofChar) = cs.map .char :=
  runesOnto_flatMap_ofChar [] cs

/-! ## Raising texts -/

/-- The character that a rune rises to. -/
def raise : Rune → Char
  | .char c => upperChar c
  | .stray _ => Rune.replacement

theorem upper_eq (t : Text) : t.upper = (t.runes.map raise).flatMap ofChar := by
  rw [upper, List.flatMap_map]
  congr 1
  funext r
  cases r <;> rfl

theorem upperChar_raise (r : Rune) : upperChar (raise r) = raise r := by
  cases r with
  | char c => exact upperChar_upperChar c
  | stray b => exact (by decide +kernel : upperChar Rune.replacement = Rune.replacement)

/-- A text that was raised stays as it is. -/
theorem upper_upper (t : Text) : t.upper.upper = t.upper := by
  have hstays : (t.runes.map raise).map (fun c => raise (.char c)) = t.runes.map raise := by
    rw [List.map_map]
    exact List.map_congr_left fun r _ => upperChar_raise r
  rw [upper_eq t.upper, upper_eq t, runes_flatMap_ofChar, List.map_map]
  exact congrArg (List.flatMap ofChar) hstays

end Text

/-- A word names the same direction in upper case. -/
theorem Direction.read?_upper (word : Text) : read? word.upper = read? word := by
  rw [read?, Text.upper_upper]
  rfl

end GridRobot
