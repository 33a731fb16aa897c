import GridRobot.Proofs.Runes
import GridRobot.Proofs.Trim
import GridRobot.Proofs.Words
import Mathlib.Data.List.DropRight

/-!
# White space by characters

Trimming cuts encodings off the bytes at either end of a text, from the right without knowing how
the text reads from the left. It comes to the same as reading the text and dropping white-space
characters at both ends (`Text.runes_trim`), whatever bytes the text has: an encoding never begins
with a continuation byte, so the last character of a text is there for both.

White space at the ends of a line is no part of a word only if it is in ASCII. So trimming leaves
the words of a line as they are exactly if no other white space is trimmed (`Text.words_trim_iff`).
-/

namespace GridRobot

namespace Rune

/-- The code points of the white-space characters. -/
def spaces : List Nat := [
  0x20, 0x09, 0x0A, 0x0B, 0x0C, 0x0D, 0x85, 0xA0, 0x1680, 0x2000, 0x2001, 0x2002, 0x2003, 0x2004,
  0x2005, 0x2006, 0x2007, 0x2008, 0x2009, 0x200A, 0x2028, 0x2029, 0x202F, 0x205F, 0x3000]

/-- Whether a rune is a white-space character. A stray byte is none. -/
def isSpace : Rune → Bool
  | char c => spaces.contains c.toNat
  | stray _ => false

theorem toNat_ofNat_of_mem_spaces : ∀ n ∈ spaces, (Char.ofNat n).toNat = n := by
  decide

end Rune

namespace Text

variable {b : UInt8} {code rest s t : Text} {x : Rune}

/-! ## Encodings -/

theorem whiteSpace_eq_map : whiteSpace = Rune.spaces.map fun n => ofChar (Char.ofNat n) := by
  decide

theorem mem_whiteSpace_iff :
    code ∈ whiteSpace ↔ ∃ c, (Rune.char c).isSpace = true ∧ code = ofChar c := by
  rw [whiteSpace_eq_map, List.mem_map]
  constructor
  · rintro ⟨n, hn, rfl⟩
    refine ⟨Char.ofNat n, ?_, rfl⟩
    rw [Rune.isSpace, Rune.toNat_ofNat_of_mem_spaces n hn]
    exact List.contains_iff_mem.2 hn
  · rintro ⟨c, hc, rfl⟩
    exact ⟨c.toNat, List.contains_iff_mem.1 hc, by rw [Char.ofNat_toNat]⟩

theorem exists_of_isSpace (hx : x.isSpace = true) : ∃ c, x = .char c ∧ ofChar c ∈ whiteSpace := by
  cases x with
  | char c => exact ⟨c, rfl, mem_whiteSpace_iff.2 ⟨c, hx, rfl⟩⟩
  | stray b => cases hx

theorem ofChar_ne_nil (c : Char) : ofChar c ≠ [] := by
  obtain ⟨b, r, hbytes, -⟩ := exists_nextRune_ofChar c []
  rw [List.append_nil] at hbytes
  rw [hbytes]
  exact List.cons_ne_nil b r

/-! ## At the start -/

/-- What is found at the start of a text is its first character. -/
theorem after?_whiteSpace (b : UInt8) (t : Text) : after? whiteSpace b t =
    if (nextRune b t).1.isSpace then some (nextRune b t).2 else none := by
  rcases hafter : after? whiteSpace b t with _ | rest
  · have hspace : (nextRune b t).1.isSpace = false := Bool.eq_false_iff.2 fun hspace => by
      obtain ⟨c, hc, hcode⟩ := exists_of_isSpace hspace
      have hbytes := bytes_nextRune b t
      rw [hc, Rune.bytes] at hbytes
      exact not_isPrefix_of_after? hafter hcode (ofChar_ne_nil c) ⟨_, hbytes⟩
    rw [hspace]
    rfl
  · obtain ⟨cs, hcs, rfl⟩ := after?_eq_some hafter
    obtain ⟨c, hspace, hc⟩ := mem_whiteSpace_iff.1 hcs
    have hnext : nextRune b (cs ++ rest) = (.char c, rest) :=
      nextRune_of_ofChar_append (by rw [← hc]; rfl)
    rw [hnext, if_pos hspace]

theorem runes_trimLeft (t : Text) : t.trimLeft.runes = t.runes.dropWhile Rune.isSpace := by
  unfold trimLeft
  fun_induction dropCodes whiteSpace t with
  | case1 => rw [runes_nil]; rfl
  | case2 b t rest h ih =>
    rw [after?_whiteSpace] at h
    split_ifs at h with hspace
    rw [ih, runes_cons, List.dropWhile_cons_of_pos hspace, Option.some.inj h]
  | case3 b t h =>
    rw [after?_whiteSpace] at h
    split_ifs at h with hspace
    rw [runes_cons, List.dropWhile_cons_of_neg hspace]

/-! ## At the end -/

theorem head_ofChar (c : Char) : ∀ a ∈ (ofChar c).head?, within 0x80 0xBF a = false := by
  intro a ha
  by_contra hgoes
  obtain ⟨b, r, hbytes, hnext⟩ := exists_nextRune_ofChar c []
  rw [List.append_nil] at hbytes
  obtain rfl : b = a := by simpa [hbytes] using ha
  -- no sequence begins with a continuation byte
  have hnone : sequence? b r = none := by
    have hrange := within_iff.1 (by simpa using hgoes)
    change 128 ≤ b.toNat ∧ b.toNat ≤ 191 at hrange
    have hlow : ¬ b < 0x80 := by rw [UInt8.lt_iff_toNat_lt]; exact Nat.not_lt.2 hrange.1
    have hlead {lo hi : UInt8} (hlo : 191 < lo.toNat) : within lo hi b = false := by
      rw [Bool.eq_false_iff, ne_eq, within_iff]
      omega
    simp [sequence?, hlow, hlead]
  rw [nextRune, hnone] at hnext
  cases hnext

theorem runes_concat_ofChar (s : Text) (c : Char) :
    runes (s ++ ofChar c) = s.runes ++ [.char c] := by
  have hlast := runes_ofChar_append c []
  rw [List.append_nil, runes_nil] at hlast
  rw [runes_append s (head_ofChar c), hlast]

theorem reverse_mem_iff {codes : List Text} :
    code ∈ codes.map List.reverse ↔ code.reverse ∈ codes := by
  rw [List.mem_map]
  exact ⟨fun ⟨c, hc, h⟩ => by rwa [← h, List.reverse_reverse],
    fun h => ⟨_, h, List.reverse_reverse code⟩⟩

theorem runes_trimRight (t : Text) : t.trimRight.runes = t.runes.rdropWhile Rune.isSpace := by
  unfold trimRight
  rw [← List.reverse_reverse t, List.reverse_reverse t.reverse]
  generalize t.reverse = u
  fun_induction dropCodes (whiteSpace.map List.reverse) u with
  | case1 => simp
  | case2 b u rest h ih =>
    obtain ⟨cs, hcs, rfl⟩ := after?_eq_some h
    obtain ⟨c, hspace, hc⟩ := mem_whiteSpace_iff.1 (reverse_mem_iff.1 hcs)
    have hcut : (b :: (cs ++ rest)).reverse = rest.reverse ++ ofChar c := by
      rw [← hc, ← List.cons_append, List.reverse_append]
    rw [hcut, runes_concat_ofChar, List.rdropWhile_concat_pos _ _ _ hspace, ih]
  | case3 b u h =>
    refine (List.rdropWhile_eq_self_iff.2 fun hne hspace => ?_).symm
    -- the last character would have been found
    obtain ⟨c, hc, hcode⟩ := exists_of_isSpace hspace
    have hrunes := List.dropLast_append_getLast hne
    have hbytes := flatMap_bytes_runes (b :: u).reverse
    rw [← hrunes, hc, List.flatMap_append, List.flatMap_singleton, Rune.bytes] at hbytes
    have hpre : (ofChar c).reverse <+: b :: u := by
      rw [← List.reverse_suffix, List.reverse_reverse, ← hbytes]
      exact List.suffix_append _ _
    refine not_isPrefix_of_after? h (reverse_mem_iff.2 ?_) ?_ hpre
    · rwa [List.reverse_reverse]
    · rw [ne_eq, List.reverse_eq_nil_iff]
      exact ofChar_ne_nil c

/-- Trimming a text drops its white-space characters at both ends. -/
theorem runes_trim (t : Text) :
    t.trim.runes = (t.runes.dropWhile Rune.isSpace).rdropWhile Rune.isSpace := by
  rw [trim, runes_trimRight, runes_trimLeft]

theorem runes_eq_nil_iff : t.runes = [] ↔ t = [] := by
  constructor
  · intro h
    rw [← flatMap_bytes_runes t, h, List.flatMap_nil]
  · rintro rfl
    exact runes_nil

/-- A text is blank if all of its characters are white space. -/
theorem trim_eq_nil_iff : t.trim = [] ↔ ∀ x ∈ t.runes, x.isSpace = true := by
  rw [← runes_eq_nil_iff, runes_trim, List.rdropWhile_eq_nil_iff]
  constructor
  · intro h x hx
    rw [← List.takeWhile_append_dropWhile (p := Rune.isSpace) (l := t.runes), List.mem_append] at hx
    rcases hx with hx | hx
    · exact List.mem_takeWhile_imp hx
    · exact h x hx
  · intro h x hx
    exact h x ((List.dropWhile_suffix _).subset hx)

/-- A white-space character at the end of a text makes no difference to trimming. -/
theorem trim_concat_ofChar {c : Char} (hc : (Rune.char c).isSpace = true) (s : Text) :
    trim (s ++ ofChar c) = s.trim := by
  have hrunes : (trim (s ++ ofChar c)).runes = s.trim.runes := by
    rw [runes_trim, runes_trim, runes_concat_ofChar, List.dropWhile_append]
    split_ifs with hall
    · rw [List.isEmpty_iff.1 hall, List.dropWhile_cons_of_pos hc]
      rfl
    · rw [List.rdropWhile_concat_pos _ _ _ hc]
  rw [← flatMap_bytes_runes (trim _), hrunes, flatMap_bytes_runes]

/-! ## Trimming and words -/

/-- The white-space characters at the two ends of a text. -/
def outerSpaces (t : Text) : List Rune :=
  t.runes.takeWhile Rune.isSpace ++ t.runes.rtakeWhile Rune.isSpace

theorem takeWhile_append_rtakeWhile {α : Type} {p : α → Bool} {l : List α}
    (hl : ∃ x ∈ l, p x = false) :
    l.takeWhile p ++ ((l.dropWhile p).rdropWhile p ++ l.rtakeWhile p) = l := by
  have hright : l.rtakeWhile p = (l.dropWhile p).rtakeWhile p := by
    have hreverse : l.reverse = (l.dropWhile p).reverse ++ (l.takeWhile p).reverse := by
      rw [← List.reverse_append, List.takeWhile_append_dropWhile]
    rw [List.rtakeWhile, List.rtakeWhile, hreverse, List.takeWhile_append, if_neg]
    -- what is left after the first element without the property cannot have it throughout
    intro hlength
    have hall := (List.takeWhile_prefix p).eq_of_length hlength
    rw [List.takeWhile_eq_self_iff] at hall
    obtain ⟨x, hx, hpx⟩ := hl
    rw [← List.takeWhile_append_dropWhile (p := p) (l := l), List.mem_append] at hx
    rcases hx with hx | hx
    · rw [List.mem_takeWhile_imp hx] at hpx
      cases hpx
    · rw [hall x (List.mem_reverse.2 hx)] at hpx
      cases hpx
  rw [hright, List.rdropWhile_append_rtakeWhile, List.takeWhile_append_dropWhile]

/-- What trimming cuts off at each end of a text that is not blank. -/
theorem eq_append_trim (ht : ∃ x ∈ t.runes, x.isSpace = false) :
    t = (t.runes.takeWhile Rune.isSpace).flatMap Rune.bytes ++
      (t.trim ++ (t.runes.rtakeWhile Rune.isSpace).flatMap Rune.bytes) := by
  conv_lhs => rw [← flatMap_bytes_runes t, ← takeWhile_append_rtakeWhile ht]
  rw [List.flatMap_append, List.flatMap_append, ← runes_trim, flatMap_bytes_runes]

theorem all_isBlank_ofChar : ∀ n ∈ Rune.spaces,
    (ofChar (Char.ofNat n)).all isBlank = (n < 0x80 : Bool) := by
  decide

/-- White space separates words if it is in ASCII. -/
theorem forall_isBlank_bytes_iff (hx : x.isSpace = true) :
    (∀ b ∈ x.bytes, isBlank b = true) ↔ x.code < 0x80 := by
  obtain ⟨c, rfl, -⟩ := exists_of_isSpace hx
  have hall := all_isBlank_ofChar c.toNat (List.contains_iff_mem.1 hx)
  rw [Char.ofNat_toNat] at hall
  rw [Rune.bytes, Rune.code, ← List.all_eq_true, hall, decide_eq_true_iff]

theorem isSpace_ascii_of_mem_blanks : ∀ b ∈ blanks, b.toNat < 0x80 ∧ (ascii b).isSpace = true := by
  decide +kernel

/-- A line without words is blank. -/
theorem trim_eq_nil_of_words (ht : t.words = []) : t.trim = [] := by
  have hblank : ∀ b ∈ t, b.toNat < 0x80 ∧ (ascii b).isSpace = true := by
    intro b hb
    have hnone := flatten_words t
    rw [ht, List.flatten_nil, eq_comm, List.filter_eq_nil_iff] at hnone
    have hmem : isBlank b = true := by simpa using hnone b hb
    rw [isBlank_eq_contains] at hmem
    exact isSpace_ascii_of_mem_blanks b (List.contains_iff_mem.1 hmem)
  have hrunes := runes_ascii_append (fun b hb => (hblank b hb).1) []
  rw [List.append_nil, runes_nil, List.append_nil] at hrunes
  rw [trim_eq_nil_iff, hrunes]
  intro x hx
  obtain ⟨b, hb, rfl⟩ := List.mem_map.1 hx
  exact (hblank b hb).2

/-- The words of a line that is not blank are those of the trimmed line exactly if all that is
trimmed is ASCII. -/
theorem words_trim_iff (ht : ∃ x ∈ t.runes, x.isSpace = false) :
    t.trim.words = t.words ↔ ∀ x ∈ t.outerSpaces, x.code < 0x80 := by
  have hblank {xs : List Rune} (hxs : ∀ x ∈ xs, x.isSpace = true) :
      (∀ b ∈ xs.flatMap Rune.bytes, isBlank b = true) ↔ ∀ x ∈ xs, x.code < 0x80 := by
    rw [List.forall_mem_flatMap]
    exact forall₂_congr fun x hx => forall_isBlank_bytes_iff (hxs x hx)
  have hcut := words_append_append_iff ((t.runes.takeWhile Rune.isSpace).flatMap Rune.bytes) t.trim
    ((t.runes.rtakeWhile Rune.isSpace).flatMap Rune.bytes)
  rw [← eq_append_trim ht, hblank fun x hx => List.mem_takeWhile_imp hx,
    hblank fun x hx => List.mem_rtakeWhile_imp hx] at hcut
  rw [eq_comm, hcut, outerSpaces, List.forall_mem_append]

end Text

end GridRobot
