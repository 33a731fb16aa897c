import GridRobot.Geometry
import GridRobot.Text.Integer
import Mathlib.Data.List.Basic
import Mathlib.Tactic.SplitIfs

/-!
# Reading what was written

Numbers and positions can be read back from the text that shows them. `Text.toInt64?` and
`Position.read?` accept exactly what `Text.ofInt64` and `Position.text` write, and give back what
was written. A numeral holds no space, so what it ends can be cut at the last one
(`Text.cutLast?`).
-/

namespace GridRobot

namespace Text

variable {b : UInt8} {t u v opening closing : Text}

/-! ## Numerals -/

theorem isDigit_digit {n : Nat} (hn : n < 10) : isDigit (digit n) = true := by
  revert n
  decide

theorem digitValue_digit {n : Nat} (hn : n < 10) : digitValue (digit n) = n := by
  revert n
  decide

theorem decimalValue_concat (digits : Text) (b : UInt8) :
    decimalValue (digits ++ [b]) = 10 * decimalValue digits + digitValue b := by
  simp [decimalValue]

theorem isDigit_of_mem_ofNat {n : Nat} (hb : b ∈ ofNat n) : isDigit b = true := by
  induction n using ofNat.induct with
  | case1 n hn =>
    rw [ofNat, if_pos hn, List.mem_singleton] at hb
    exact hb ▸ isDigit_digit hn
  | case2 n hn ih =>
    rw [ofNat, if_neg hn, List.mem_append, List.mem_singleton] at hb
    rcases hb with hb | rfl
    · exact ih hb
    · exact isDigit_digit (Nat.mod_lt n (by decide))

theorem decimalValue_ofNat (n : Nat) : decimalValue (ofNat n) = n := by
  induction n using ofNat.induct with
  | case1 n hn =>
    rw [ofNat, if_pos hn]
    simp [decimalValue, digitValue_digit hn]
  | case2 n hn ih =>
    rw [ofNat, if_neg hn, decimalValue_concat, ih, digitValue_digit (Nat.mod_lt n (by decide))]
    exact Nat.div_add_mod n 10

theorem ofNat_ne_nil (n : Nat) : ofNat n ≠ [] := by
  rw [ofNat]
  split <;> simp

theorem readDecimal?_of_splitSign {negative : Bool} {n : Nat}
    (h : splitSign t = (negative, ofNat n)) : readDecimal? t = signed? negative n := by
  have hdigits : (ofNat n).all isDigit = true := List.all_eq_true.2 fun _ => isDigit_of_mem_ofNat
  simp [readDecimal?, h, ofNat_ne_nil, hdigits, decimalValue_ofNat]

theorem splitSign_ofNat (n : Nat) : splitSign (ofNat n) = (false, ofNat n) := by
  rcases h : ofNat n with - | ⟨b, t⟩
  · exact absurd h (ofNat_ne_nil n)
  · have hb : isDigit b = true := isDigit_of_mem_ofNat (n := n) (by simp [h])
    unfold splitSign
    split
    · next heq => cases heq; cases hb
    · next heq => cases heq; cases hb
    · rfl

/-- A 64-bit number is read as it was written. -/
theorem readDecimal?_ofInt64 (n : Int64) : readDecimal? (ofInt64 n) = some n := by
  have hlt := n.toInt_lt
  have hle := n.le_toInt
  have hback {i : Int} (h : n.toInt = i) : Int64.ofInt i = n := h ▸ n.ofInt_toInt
  unfold ofInt64
  rcases h : n.toInt with m | m
  · have hm : m < maxMagnitude := by
      rw [h] at hlt
      simp only [Int.ofNat_eq_natCast] at hlt
      unfold maxMagnitude
      omega
    rw [ofInt, readDecimal?_of_splitSign (splitSign_ofNat m), signed?, if_neg (by decide),
      if_pos hm]
    exact congrArg some (hback h)
  · have hm : m + 1 ≤ maxMagnitude := by
      rw [h] at hle
      unfold maxMagnitude
      omega
    have hsign : splitSign (45 :: ofNat (m + 1)) = (true, ofNat (m + 1)) := rfl
    rw [ofInt, readDecimal?_of_splitSign hsign, signed?, if_pos rfl, if_pos hm]
    exact congrArg some (hback h)

theorem notMem_ofInt (hdigit : isDigit b = false) (hsign : b ≠ 45) (n : Int) : b ∉ ofInt n := by
  have hnat (m : Nat) : b ∉ ofNat m := fun hmem => by
    rw [isDigit_of_mem_ofNat hmem] at hdigit
    cases hdigit
  cases n with
  | ofNat m => exact hnat m
  | negSucc m => exact List.not_mem_cons_of_ne_of_not_mem hsign (hnat (m + 1))

theorem space_notMem_ofInt64 (n : Int64) : 32 ∉ ofInt64 n :=
  notMem_ofInt (by decide) (by decide) n.toInt

/-- The 64-bit number that a text shows, in the form in which it is written. -/
def toInt64? (t : Text) : Option Int64 :=
  (readDecimal? t).filter fun n => ofInt64 n = t

theorem toInt64?_eq_some_iff {n : Int64} : toInt64? t = some n ↔ t = ofInt64 n := by
  rw [toInt64?, Option.filter_eq_some_iff, decide_eq_true_iff]
  constructor
  · rintro ⟨-, h⟩
    exact h.symm
  · rintro rfl
    exact ⟨readDecimal?_ofInt64 n, rfl⟩

/-! ## Taking a text apart -/

/-- What stands before and after the last occurrence of a byte. -/
def cutLast? (b : UInt8) : Text → Option (Text × Text)
  | [] => none
  | a :: t =>
    match cutLast? b t with
    | some (before, after) => some (a :: before, after)
    | none => if a = b then some ([], t) else none

theorem cutLast?_eq_none_iff : cutLast? b t = none ↔ b ∉ t := by
  induction t with
  | nil => simp [cutLast?]
  | cons a t ih =>
    unfold cutLast?
    split
    · next hcut =>
      rw [hcut] at ih
      simpa using fun _ => ih
    · next hcut => simp [ih.1 hcut, eq_comm]

theorem cutLast?_append_cons (u : Text) (hv : b ∉ v) : cutLast? b (u ++ b :: v) = some (u, v) := by
  induction u with
  | nil => simp [cutLast?, cutLast?_eq_none_iff.2 hv]
  | cons a u ih => simp [cutLast?, ih]

theorem eq_of_cutLast? (h : cutLast? b t = some (u, v)) : t = u ++ b :: v ∧ b ∉ v := by
  induction t generalizing u with
  | nil => cases h
  | cons a t ih =>
    unfold cutLast? at h
    split at h
    · next hcut =>
      cases h
      obtain ⟨rfl, hv⟩ := ih hcut
      exact ⟨rfl, hv⟩
    · next hcut =>
      split_ifs at h with hab
      cases h
      exact ⟨by rw [hab, List.nil_append], cutLast?_eq_none_iff.1 hcut⟩

theorem cutLast?_eq_some_iff : cutLast? b t = some (u, v) ↔ t = u ++ b :: v ∧ b ∉ v := by
  refine ⟨eq_of_cutLast?, ?_⟩
  rintro ⟨rfl, hv⟩
  exact cutLast?_append_cons u hv

/-- What stands between two given pieces. -/
def between? (t opening closing : Text) : Option Text :=
  (t.dropPrefix? opening).bind (·.dropSuffix? closing)

theorem between?_eq_some_iff :
    t.between? opening closing = some u ↔ t = opening ++ u ++ closing := by
  simp [between?, Option.bind_eq_some_iff, List.dropPrefix?_eq_some_iff,
    List.dropSuffix?_eq_some_iff]

end Text

namespace Position

/-- The position that a text shows. -/
def read? (t : Text) : Option Position := do
  let pair ← t.between? (Text.ofString "(") (Text.ofString ")")
  let (first, second) ← pair.cutLast? 32
  let x ← (← first.between? [] (Text.ofString ",")).toInt64?
  let y ← second.toInt64?
  return ⟨x, y⟩

theorem text_eq (p : Position) :
    p.text = Text.ofString "(" ++
      (Text.ofInt64 p.x ++ Text.ofString "," ++ 32 :: Text.ofInt64 p.y) ++ Text.ofString ")" := by
  have hcomma : Text.ofString ", " = Text.ofString "," ++ [32] := by decide
  simp [text, hcomma]

theorem read?_eq_some_iff {t : Text} {p : Position} : read? t = some p ↔ t = p.text := by
  simp only [read?, Option.bind_eq_bind, Option.bind_eq_some_iff, Text.between?_eq_some_iff,
    Prod.exists, Text.cutLast?_eq_some_iff, Text.toInt64?_eq_some_iff, List.nil_append]
  rw [text_eq]
  constructor
  · rintro ⟨pair, rfl, first, second, ⟨rfl, -⟩, shown, rfl, x, rfl, y, rfl, hp⟩
    cases hp
    rfl
  · rintro rfl
    exact ⟨_, rfl, _, _, ⟨rfl, Text.space_notMem_ofInt64 p.y⟩, _, rfl, p.x, rfl, p.y, rfl, rfl⟩

end Position

end GridRobot
