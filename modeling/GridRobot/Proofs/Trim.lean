import GridRobot.Text.Blank
import Mathlib.Tactic.SplitIfs

/-!
# Trimming twice

A text is bare of some codes if it starts with none of them (`Text.Bare`). Dropping codes makes a
text bare and leaves a bare one alone, and what is cut off at the end of a bare text leaves it
bare. So a trimmed text is not trimmed any further (`trim_trim`).
-/

namespace GridRobot

namespace Text

variable {codes : List Text} {b : UInt8} {t u : Text}

/-- Whether a text starts with none of the given codes. -/
def Bare (codes : List Text) : Text → Prop
  | [] => True
  | b :: t => after? codes b t = none

theorem after?_eq_none_iff : after? codes b t = none ↔
    ∀ cs, b :: cs ∈ codes → ¬ cs <+: t := by
  rw [after?, List.findSome?_eq_none_iff]
  constructor
  · intro h cs hcs hpre
    have hcode := h (b :: cs) hcs
    simp [List.isPrefixOf_iff_prefix.2 hpre] at hcode
  · intro h code hcode
    cases code with
    | nil => rfl
    | cons c cs =>
      dsimp only
      split_ifs with hpre
      · simp only [Bool.and_eq_true, beq_iff_eq, List.isPrefixOf_iff_prefix] at hpre
        obtain ⟨rfl, hpre⟩ := hpre
        exact absurd hpre (h cs hcode)
      · rfl

theorem not_isPrefix_of_after? {code : Text} (h : after? codes b t = none) (hcode : code ∈ codes)
    (hne : code ≠ []) : ¬ code <+: b :: t := by
  obtain ⟨c, cs, rfl⟩ := List.exists_cons_of_ne_nil hne
  rw [List.cons_prefix_cons]
  rintro ⟨rfl, hpre⟩
  exact after?_eq_none_iff.1 h cs hcode hpre

theorem Bare.of_isPrefix (h : Bare codes t) (hu : u <+: t) : Bare codes u := by
  obtain ⟨w, rfl⟩ := hu
  cases u with
  | nil => trivial
  | cons b u =>
    refine after?_eq_none_iff.2 fun cs hcs hpre => ?_
    exact after?_eq_none_iff.1 h cs hcs (hpre.trans (List.prefix_append u w))

theorem dropCodes_of_bare (h : Bare codes t) : dropCodes codes t = t := by
  cases t with
  | nil => rw [dropCodes]
  | cons b t =>
    rw [dropCodes]
    split
    · next hafter => rw [h] at hafter; cases hafter
    · rfl

theorem bare_dropCodes (codes : List Text) (t : Text) : Bare codes (dropCodes codes t) := by
  fun_induction dropCodes codes t with
  | case1 => trivial
  | case2 b t rest h ih => exact ih
  | case3 b t h => exact h

theorem after?_eq_some {rest : Text} (h : after? codes b t = some rest) :
    ∃ cs, b :: cs ∈ codes ∧ t = cs ++ rest := by
  obtain ⟨code, hcode, hc⟩ := List.exists_of_findSome?_eq_some h
  split at hc
  · next c cs =>
    split_ifs at hc with hpre
    simp only [Bool.and_eq_true, beq_iff_eq, List.isPrefixOf_iff_prefix] at hpre
    obtain ⟨rfl, u, rfl⟩ := hpre
    rw [List.drop_left] at hc
    exact ⟨cs, hcode, by rw [Option.some.inj hc]⟩
  · cases hc

theorem dropCodes_suffix (codes : List Text) (t : Text) : dropCodes codes t <:+ t := by
  fun_induction dropCodes codes t with
  | case1 => exact List.suffix_refl _
  | case2 b t rest h ih =>
    obtain ⟨cs, -, rfl⟩ := after?_eq_some h
    exact (ih.trans (List.suffix_append cs rest)).trans (List.suffix_cons b _)
  | case3 b t h => exact List.suffix_refl _

theorem trimRight_isPrefix (t : Text) : trimRight t <+: t := by
  have h := dropCodes_suffix (whiteSpace.map List.reverse) t.reverse
  rwa [← List.reverse_prefix, List.reverse_reverse] at h

theorem trimRight_trimRight (t : Text) : trimRight (trimRight t) = trimRight t := by
  unfold trimRight
  rw [List.reverse_reverse, dropCodes_of_bare (bare_dropCodes _ _)]

/-- What is trimmed once stays as it is. -/
theorem trim_trim (t : Text) : t.trim.trim = t.trim := by
  have hbare : Bare whiteSpace (trimRight (trimLeft t)) :=
    (bare_dropCodes whiteSpace t).of_isPrefix (trimRight_isPrefix _)
  have hleft : trimLeft (trimRight (trimLeft t)) = trimRight (trimLeft t) :=
    dropCodes_of_bare hbare
  rw [trim, trim, hleft, trimRight_trimRight]

end Text

end GridRobot
