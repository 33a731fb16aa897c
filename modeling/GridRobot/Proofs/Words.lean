import GridRobot.Text.Blank
import Mathlib.Tactic.SplitIfs

/-!
# Words of a line

A word is a text with something in it and no blank (`Text.IsWord`). The words of a line are words in
this sense (`isWord_of_mem_words`), and a blank ends the word before it (`words_append_blank`). So
words that are put together with spaces between them are read off again as they were
(`words_join`).

A line can be cut at any of its blanks (`words_append_cons`), and nothing but its blanks is lost
(`flatten_words`).
-/

namespace GridRobot

namespace Text

variable {b : UInt8} {s t w : Text} {ws : List Text}

/-- The bytes that separate words: space, tab, newline, carriage return, vertical tab and form
feed. -/
def blanks : Text :=
  [32, 9, 10, 13, 11, 12]

theorem isBlank_eq_contains (b : UInt8) : isBlank b = blanks.contains b := by
  rw [Bool.eq_iff_iff]
  simp [isBlank, blanks, UInt8.le_iff_toNat_le, ← UInt8.toNat_inj]
  omega

/-- Whether a text is a single word. -/
def IsWord (w : Text) : Prop :=
  w ≠ [] ∧ ∀ b ∈ w, isBlank b = false

/-- The bytes of a line before its first blank, and the words after it. -/
def opening (line : Text) : Text × List Text :=
  line.foldr (fun b (word, rest) =>
    if isBlank b then ([], pushWord word rest) else (b :: word, rest)) ([], [])

theorem words_eq (line : Text) : line.words = pushWord line.opening.1 line.opening.2 := rfl

theorem opening_cons_of_blank (hb : isBlank b = true) (t : Text) :
    opening (b :: t) = ([], t.words) := by
  rw [words_eq]
  simp [opening, hb]

theorem opening_append (hw : ∀ b ∈ w, isBlank b = false) (t : Text) :
    opening (w ++ t) = (w ++ t.opening.1, t.opening.2) := by
  induction w with
  | nil => rfl
  | cons b w ih =>
    rw [List.forall_mem_cons] at hw
    have hrest := ih hw.2
    unfold opening at hrest ⊢
    simp [hrest, hw.1]

theorem opening_cons_of_not_blank (hb : isBlank b = false) (t : Text) :
    opening (b :: t) = (b :: t.opening.1, t.opening.2) :=
  opening_append (w := [b]) (by simpa using hb) t

theorem pushWord_of_isWord (hw : IsWord w) (ws : List Text) : pushWord w ws = w :: ws := by
  simp [pushWord, hw.1]

/-- A blank ends the word before it. -/
theorem words_append_blank (hw : IsWord w) (hb : isBlank b = true) (t : Text) :
    words (w ++ b :: t) = w :: t.words := by
  rw [words_eq, opening_append hw.2, opening_cons_of_blank hb, List.append_nil,
    pushWord_of_isWord hw]

theorem words_of_isWord (hw : IsWord w) : w.words = [w] := by
  have hopening := opening_append hw.2 []
  rw [List.append_nil] at hopening
  rw [words_eq, hopening]
  simp [opening, pushWord_of_isWord hw]

theorem forall_mem_pushWord (hw : ∀ b ∈ w, isBlank b = false) (hws : ∀ v ∈ ws, IsWord v) :
    ∀ v ∈ pushWord w ws, IsWord v := by
  unfold pushWord
  split_ifs with hempty
  · exact hws
  · rw [List.forall_mem_cons]
    exact ⟨⟨by simpa using hempty, hw⟩, hws⟩

theorem opening_spec (line : Text) :
    (∀ b ∈ line.opening.1, isBlank b = false) ∧ ∀ w ∈ line.opening.2, IsWord w := by
  induction line with
  | nil => simp [opening]
  | cons b line ih =>
    rcases hb : isBlank b with _ | _
    · rw [opening_cons_of_not_blank hb]
      exact ⟨List.forall_mem_cons.2 ⟨hb, ih.1⟩, ih.2⟩
    · rw [opening_cons_of_blank hb]
      exact ⟨by simp, forall_mem_pushWord ih.1 ih.2⟩

theorem isWord_of_mem_words (line : Text) : ∀ w ∈ line.words, IsWord w :=
  forall_mem_pushWord line.opening_spec.1 line.opening_spec.2

/-- Words with spaces between them are read off again as they were. -/
theorem words_join (hws : ∀ w ∈ ws, IsWord w) : (join [32] ws).words = ws := by
  induction ws with
  | nil => rfl
  | cons w ws ih =>
    rw [List.forall_mem_cons] at hws
    cases ws with
    | nil =>
      rw [join, List.intercalate_singleton]
      exact words_of_isWord hws.1
    | cons v ws =>
      have hjoin : join [32] (w :: v :: ws) = w ++ 32 :: join [32] (v :: ws) := by
        simp [join, List.intercalate_cons_cons]
      rw [hjoin, words_append_blank hws.1 (by decide), ih hws.2]

/-! ## Cutting at a blank -/

theorem pushWord_append (w : Text) (ws vs : List Text) :
    pushWord w (ws ++ vs) = pushWord w ws ++ vs := by
  unfold pushWord
  split_ifs <;> rfl

theorem flatten_pushWord (w : Text) (ws : List Text) :
    (pushWord w ws).flatten = w ++ ws.flatten := by
  unfold pushWord
  split_ifs with hempty
  · rw [List.isEmpty_iff.1 hempty, List.nil_append]
  · rfl

theorem opening_append_cons (hb : isBlank b = true) (s t : Text) :
    opening (s ++ b :: t) = (s.opening.1, s.opening.2 ++ t.words) := by
  induction s with
  | nil => exact opening_cons_of_blank hb t
  | cons a s ih =>
    rw [List.cons_append]
    rcases ha : isBlank a with _ | _
    · rw [opening_cons_of_not_blank ha, opening_cons_of_not_blank ha, ih]
    · rw [opening_cons_of_blank ha, opening_cons_of_blank ha, words_eq, ih, pushWord_append]
      rfl

/-- A line can be cut at each of its blanks. -/
theorem words_append_cons (hb : isBlank b = true) (s t : Text) :
    words (s ++ b :: t) = s.words ++ t.words := by
  rw [words_eq, opening_append_cons hb, pushWord_append]
  rfl

theorem words_cons (hb : isBlank b = true) (t : Text) : words (b :: t) = t.words :=
  words_append_cons hb [] t

/-- Blanks in front of a line do not count. -/
theorem words_blanks_append (hs : ∀ b ∈ s, isBlank b = true) (t : Text) :
    words (s ++ t) = t.words := by
  induction s with
  | nil => rfl
  | cons b s ih =>
    rw [List.forall_mem_cons] at hs
    rw [List.cons_append, words_cons hs.1, ih hs.2]

/-- Blanks after a line do not count. -/
theorem words_append_blanks (hs : ∀ b ∈ s, isBlank b = true) (t : Text) :
    words (t ++ s) = t.words := by
  cases s with
  | nil => rw [List.append_nil]
  | cons b s =>
    rw [List.forall_mem_cons] at hs
    have hrest := words_blanks_append hs.2 []
    rw [List.append_nil] at hrest
    rw [words_append_cons hs.1, hrest]
    exact List.append_nil _

/-- Put together, the words of a line are the line without its blanks. -/
theorem flatten_words (line : Text) : line.words.flatten = line.filter fun b => !isBlank b := by
  rw [words_eq, flatten_pushWord]
  induction line with
  | nil => rfl
  | cons b line ih =>
    rcases hb : isBlank b with _ | _
    · rw [opening_cons_of_not_blank hb, List.filter_cons_of_pos (by simp [hb]), ← ih]
      rfl
    · rw [opening_cons_of_blank hb, List.filter_cons_of_neg (by simp [hb]), ← ih, words_eq,
        flatten_pushWord]
      rfl

/-- What stands around a line leaves its words alone only if it is blank. -/
theorem words_append_append_iff (s line t : Text) : words (s ++ (line ++ t)) = line.words ↔
    (∀ b ∈ s, isBlank b = true) ∧ ∀ b ∈ t, isBlank b = true := by
  constructor
  · intro h
    have hbytes := congrArg (fun ws => ws.flatten.length) h
    simp only [flatten_words, List.filter_append, List.length_append] at hbytes
    have hnone {u : Text} (hu : (u.filter fun b => !isBlank b).length = 0) :
        ∀ b ∈ u, isBlank b = true := by
      simpa using hu
    exact ⟨hnone (by omega), hnone (by omega)⟩
  · rintro ⟨hs, ht⟩
    rw [words_blanks_append hs, words_append_blanks ht]

end Text

end GridRobot
