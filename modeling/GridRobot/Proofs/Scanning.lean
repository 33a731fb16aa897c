import GridRobot.Proofs.Words
import Mathlib.Data.List.Infix
import Mathlib.Data.List.TakeWhile

/-!
# Words as a scanner finds them

A scanner has two rules, one for stretches of blanks and one for stretches without a blank
(`Text.Rule`). At each place it takes the longest piece of the line that a rule matches
(`Text.Longest`), drops it if it is a gap and gives it back if it is a word (`Text.Scanned`). Some
rule always matches, so that a scan comes to the end of every line, and what it gives back are the
words of the line (`Text.scanned_iff`).
-/

namespace GridRobot

namespace Text

variable {b : UInt8} {line m rest : Text} {ws : List Text}

theorem isWord_iff_notMem {w : Text} : IsWord w ↔ w ≠ [] ∧ ∀ b ∈ w, b ∉ blanks := by
  simp [IsWord, isBlank_eq_contains]

/-! ## Rules and longest matches -/

/-- The rules of the scanner. -/
inductive Rule where
  /-- Blanks, which are skipped. -/
  | gap
  /-- Anything but blanks. -/
  | word
  deriving DecidableEq, Repr

namespace Rule

/-- Whether a rule is about bytes of this kind. -/
def takes : Rule → UInt8 → Bool
  | gap, b => blanks.contains b
  | word, b => !blanks.contains b

/-- A rule matches one or more bytes of its kind. -/
def Matches (r : Rule) (m : Text) : Prop :=
  m ≠ [] ∧ ∀ b ∈ m, r.takes b = true

theorem eq_of_takes {r r' : Rule} (h : r.takes b = true) (h' : r'.takes b = true) : r' = r := by
  cases r <;> cases r' <;> simp_all [takes]

theorem exists_takes (b : UInt8) : ∃ r : Rule, r.takes b = true := by
  rcases hb : blanks.contains b with _ | _
  · exact ⟨word, by rw [takes, hb]; rfl⟩
  · exact ⟨gap, hb⟩

end Rule

/-- A rule matches the first of two pieces of a line, and no rule matches a longer beginning of
them. -/
def Longest (r : Rule) (m rest : Text) : Prop :=
  r.Matches m ∧ ∀ (r' : Rule) (m' : Text), m' <+: m ++ rest → r'.Matches m' → m'.length ≤ m.length

/-- A match is the longest one if it cannot go on with the next byte. -/
theorem longest_iff {r : Rule} :
    Longest r m rest ↔ r.Matches m ∧ ∀ b ∈ rest.head?, r.takes b = false := by
  refine and_congr_right fun hm => ⟨fun hlongest b hb => ?_, fun hend r' m' hpre hm' => ?_⟩
  · by_contra hgoes
    obtain ⟨rest, rfl⟩ := List.head?_eq_some_iff.1 hb
    have hmore : r.Matches (m ++ [b]) := by
      refine ⟨by simp, fun c hc => ?_⟩
      rcases List.mem_append.1 hc with hc | hc
      · exact hm.2 c hc
      · rw [List.mem_singleton.1 hc]
        simpa using hgoes
    have hle := hlongest r (m ++ [b]) (by simp) hmore
    rw [List.length_append, List.length_singleton] at hle
    omega
  · by_contra hlt
    -- a longer match would hold all of `m`, and the byte after it
    have hlt : m.length < m'.length := by omega
    obtain ⟨u, rfl⟩ := List.prefix_of_prefix_length_le (List.prefix_append m rest) hpre hlt.le
    obtain ⟨a, m, rfl⟩ := List.exists_cons_of_ne_nil hm.1
    have hrule : r' = r := Rule.eq_of_takes (hm.2 a (by simp)) (hm'.2 a (by simp))
    cases u with
    | nil => simp at hlt
    | cons b u =>
      have hhead : b ∈ rest.head? := by
        obtain ⟨v, hv⟩ := (List.prefix_append_right_inj _).1 hpre
        simp [← hv]
      have htakes := hm'.2 b (by simp)
      rw [hrule, hend b hhead] at htakes
      cases htakes

theorem exists_longest (hline : line ≠ []) : ∃ r m rest, line = m ++ rest ∧ Longest r m rest := by
  obtain ⟨b, t, rfl⟩ := List.exists_cons_of_ne_nil hline
  obtain ⟨r, hr⟩ := Rule.exists_takes b
  refine ⟨r, (b :: t).takeWhile r.takes, (b :: t).dropWhile r.takes,
    List.takeWhile_append_dropWhile.symm, longest_iff.2 ⟨⟨?_, ?_⟩, ?_⟩⟩
  · simp [hr]
  · intro c hc
    exact List.mem_takeWhile_imp hc
  · intro c hc
    have hnot := List.head?_dropWhile_not r.takes (b :: t)
    rw [Option.mem_def.1 hc] at hnot
    exact hnot

/-! ## Scans -/

/-- A scan of a line, with the words that it gives back. -/
inductive Scanned : Text → List Text → Prop where
  | nil : Scanned [] []
  | skip {m rest : Text} {ws : List Text} (hm : Longest .gap m rest) (hrest : Scanned rest ws) :
      Scanned (m ++ rest) ws
  | word {m rest : Text} {ws : List Text} (hm : Longest .word m rest) (hrest : Scanned rest ws) :
      Scanned (m ++ rest) (m :: ws)

theorem Scanned.eq_words (h : Scanned line ws) : ws = line.words := by
  induction h with
  | nil => rfl
  | @skip m rest ws hm hrest ih =>
    rw [ih, words_blanks_append fun b hb => (isBlank_eq_contains b).trans (hm.1.2 b hb)]
  | @word m rest ws hm hrest ih =>
    obtain ⟨hmatch, hend⟩ := longest_iff.1 hm
    have hword : IsWord m := ⟨hmatch.1, fun b hb => by
      have htakes := hmatch.2 b hb
      rwa [Rule.takes, ← isBlank_eq_contains, Bool.not_eq_true'] at htakes⟩
    cases rest with
    | nil => rw [ih, List.append_nil, words_of_isWord hword]; rfl
    | cons b rest =>
      have hb : isBlank b = true := by
        have htakes := hend b rfl
        rwa [Rule.takes, ← isBlank_eq_contains, Bool.not_eq_false'] at htakes
      rw [ih, words_append_blank hword hb, words_cons hb]

theorem exists_scanned (line : Text) : ∃ ws, Scanned line ws := by
  induction hlength : line.length using Nat.strongRecOn generalizing line with
  | ind n ih =>
    by_cases hline : line = []
    · exact ⟨[], hline ▸ .nil⟩
    · obtain ⟨r, m, rest, rfl, hm⟩ := exists_longest hline
      have hpos : 0 < m.length := List.length_pos_of_ne_nil hm.1.1
      rw [List.length_append] at hlength
      obtain ⟨ws, hws⟩ := ih rest.length (by omega) rest rfl
      cases r with
      | gap => exact ⟨ws, .skip hm hws⟩
      | word => exact ⟨m :: ws, .word hm hws⟩

/-- A scan of a line gives back its words. -/
theorem scanned_iff : Scanned line ws ↔ ws = line.words := by
  refine ⟨Scanned.eq_words, fun hws => ?_⟩
  obtain ⟨vs, hvs⟩ := exists_scanned line
  rwa [hws, ← hvs.eq_words]

end Text

/-- The words of a line are what a scan by longest matches gives back. Each of them is not empty and
has none of the six blanks, and put together they are the line without its blanks. A line can be cut
at any blank, and words with single spaces between them are read off again as they were. -/
theorem words_split_at_blanks (line : Text) :
    (∀ ws, Text.Scanned line ws ↔ ws = line.words) ∧
    (∀ w ∈ line.words, w ≠ [] ∧ ∀ b ∈ w, b ∉ Text.blanks) ∧
    line.words.flatten = line.filter (fun b => !Text.blanks.contains b) ∧
    (∀ (s t : Text) (b : UInt8), b ∈ Text.blanks →
      Text.words (s ++ b :: t) = s.words ++ t.words) ∧
    ∀ ws : List Text, (∀ w ∈ ws, w ≠ [] ∧ ∀ b ∈ w, b ∉ Text.blanks) →
      (Text.join [32] ws).words = ws := by
  refine ⟨fun ws => Text.scanned_iff, fun w hw => ?_, ?_, fun s t b hb => ?_, fun ws hws => ?_⟩
  · exact Text.isWord_iff_notMem.1 (Text.isWord_of_mem_words line w hw)
  · simp only [Text.flatten_words, Text.isBlank_eq_contains]
  · exact Text.words_append_cons (by simpa [Text.isBlank_eq_contains] using hb) s t
  · exact Text.words_join fun w hw => Text.isWord_iff_notMem.2 (hws w hw)

/-- A NUL and a byte that is no UTF-8 belong to words, and blanks may be mixed. -/
example : Text.words [9, 0, 0xFF, 11, 12, 13, 0x56, 10] = [[0, 0xFF], [0x56]] := by decide

end GridRobot
