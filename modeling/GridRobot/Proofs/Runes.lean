import GridRobot.Proofs.Letters

/-!
# Texts as runes

A text is read rune by rune (`Text.runes_cons`), and nothing is lost: the bytes of its first rune
are those that it begins with (`Text.bytes_nextRune`). So a text can be cut after any number of its
runes (`Text.exists_cut`). It can also be cut in front of any byte that is no continuation byte, for
such a byte never goes on with a sequence that was begun before it (`Text.runes_append`).
-/

namespace GridRobot

namespace Text

variable {b c d e : UInt8} {n : Nat} {r s t : Text}

/-! ## Rune by rune -/

theorem runesOnto_append (read done : List Rune) (t : Text) :
    runesOnto (read ++ done) t = done.reverse ++ runesOnto read t := by
  fun_induction runesOnto read t with
  | case1 read => simp [runesOnto]
  | case2 read b t ih => rw [runesOnto, ← List.cons_append, ih]

@[simp] theorem runes_nil : runes [] = [] := by
  simp [runes, runesOnto]

theorem runes_cons (b : UInt8) (t : Text) :
    runes (b :: t) = (nextRune b t).1 :: runes (nextRune b t).2 := by
  rw [runes, runesOnto]
  exact runesOnto_append [] [(nextRune b t).1] (nextRune b t).2

/-- What holds of the empty text, and of a text if it holds of what follows its first rune, holds of
all texts. -/
theorem rune_induction {P : Text → Prop} (nil : P [])
    (cons : ∀ b t, P (nextRune b t).2 → P (b :: t)) (t : Text) : P t := by
  induction hlength : t.length using Nat.strongRecOn generalizing t with
  | ind n ih =>
    cases t with
    | nil => exact nil
    | cons b t =>
      have hle := length_nextRune_le b t
      rw [List.length_cons] at hlength
      exact cons b t (ih _ (by omega) _ rfl)

theorem runes_ofChar_append (c : Char) (t : Text) : runes (ofChar c ++ t) = .char c :: runes t := by
  obtain ⟨b, r, hbytes, hnext⟩ := exists_nextRune_ofChar c t
  rw [hbytes, runes_cons, hnext]

theorem runes_flatMap_ofChar_append (cs : List Char) (t : Text) :
    runes (cs.flatMap ofChar ++ t) = cs.map .char ++ runes t := by
  induction cs with
  | nil => rfl
  | cons c cs ih =>
    rw [List.flatMap_cons, List.append_assoc, runes_ofChar_append, ih]
    rfl

/-! ## The bytes of a sequence -/

theorem val_ofNat (hn : n.isValidChar) : (Char.ofNat n).val.toNat = n := by
  rw [Char.ofNat, dif_pos hn]
  rfl

theorem ofNat_eq_of_toNat (h : b.toNat = n) : UInt8.ofNat n = b := by
  rw [← h, UInt8.ofNat_toNat]

theorem toNat_ofNat_byte (hn : n < 256) : (UInt8.ofNat n).toNat = n :=
  UInt8.toNat_ofNat_of_lt' hn

theorem bounds_of_continues (h : continues b c = true) :
    (0x80 ≤ c.toNat ∧ c.toNat ≤ 0xBF) ∧ (b.toNat = 0xE0 → 0xA0 ≤ c.toNat) ∧
      (b.toNat = 0xED → c.toNat ≤ 0x9F) ∧ (b.toNat = 0xF0 → 0x90 ≤ c.toNat) ∧
      (b.toNat = 0xF4 → c.toNat ≤ 0x8F) := by
  unfold continues at h
  split_ifs at h <;> simp_all [within_iff, ← UInt8.toNat_inj] <;> omega

theorem ofChar_one (hb : b.toNat < 0x80) : ofChar (Char.ofNat b.toNat) = [b] := by
  unfold ofChar String.utf8EncodeChar
  rw [val_ofNat (.inl (by omega))]
  dsimp only
  rw [if_pos (by omega), UInt8.ofNat_toNat]

theorem ofChar_two (hb : 0xC2 ≤ b.toNat ∧ b.toNat ≤ 0xDF)
    (hc : 0x80 ≤ c.toNat ∧ c.toNat ≤ 0xBF) :
    ofChar (Char.ofNat (b.toNat % 32 * 64 + low6 c)) = [b, c] := by
  unfold ofChar String.utf8EncodeChar low6
  rw [val_ofNat (.inl (by omega))]
  dsimp only
  rw [if_neg (by omega), if_pos (by omega), ofNat_eq_of_toNat (b := b) (by omega),
    ofNat_eq_of_toNat (b := c) (by omega)]

theorem ofChar_three (hb : 0xE0 ≤ b.toNat ∧ b.toNat ≤ 0xEF) (hc : continues b c = true)
    (hd : 0x80 ≤ d.toNat ∧ d.toNat ≤ 0xBF) :
    ofChar (Char.ofNat (b.toNat % 16 * 4096 + low6 c * 64 + low6 d)) = [b, c, d] := by
  obtain ⟨hc, hshort, hsurrogate, -⟩ := bounds_of_continues hc
  unfold ofChar String.utf8EncodeChar low6
  have hvalid : (b.toNat % 16 * 4096 + c.toNat % 64 * 64 + d.toNat % 64).isValidChar := by
    unfold Nat.isValidChar
    omega
  rw [val_ofNat hvalid]
  dsimp only
  rw [if_neg (by omega), if_neg (by omega), if_pos (by omega),
    ofNat_eq_of_toNat (b := b) (by omega), ofNat_eq_of_toNat (b := c) (by omega),
    ofNat_eq_of_toNat (b := d) (by omega)]

theorem ofChar_four (hb : 0xF0 ≤ b.toNat ∧ b.toNat ≤ 0xF4) (hc : continues b c = true)
    (hd : 0x80 ≤ d.toNat ∧ d.toNat ≤ 0xBF) (he : 0x80 ≤ e.toNat ∧ e.toNat ≤ 0xBF) :
    ofChar (Char.ofNat (b.toNat % 8 * 262144 + low6 c * 4096 + low6 d * 64 + low6 e)) =
      [b, c, d, e] := by
  obtain ⟨hc, -, -, hshort, hlast⟩ := bounds_of_continues hc
  unfold ofChar String.utf8EncodeChar low6
  have hvalid : (b.toNat % 8 * 262144 + c.toNat % 64 * 4096 + d.toNat % 64 * 64 +
      e.toNat % 64).isValidChar := by
    unfold Nat.isValidChar
    omega
  rw [val_ofNat hvalid]
  dsimp only
  rw [if_neg (by omega), if_neg (by omega), if_neg (by omega),
    ofNat_eq_of_toNat (b := b) (by omega), ofNat_eq_of_toNat (b := c) (by omega),
    ofNat_eq_of_toNat (b := d) (by omega), ofNat_eq_of_toNat (b := e) (by omega)]

/-- What is read as one code point is what is written for it. -/
theorem ofChar_of_sequence? (h : sequence? b t = some (n, r)) :
    ofChar (Char.ofNat n) ++ r = b :: t := by
  unfold sequence? at h
  split_ifs at h with hone htwo hthree hfour
  · cases h
    rw [ofChar_one (UInt8.lt_iff_toNat_lt.1 hone)]
    rfl
  · split at h
    · next c r' =>
      split_ifs at h with hc
      cases h
      rw [ofChar_two (within_iff.1 htwo) (bounds_of_continues hc).1]
      rfl
    · cases h
  · split at h
    · next c d r' =>
      split_ifs at h with hcd
      cases h
      rw [Bool.and_eq_true] at hcd
      rw [ofChar_three (within_iff.1 hthree) hcd.1 (within_iff.1 hcd.2)]
      rfl
    · cases h
  · split at h
    · next c d e r' =>
      split_ifs at h with hcde
      cases h
      rw [Bool.and_eq_true, Bool.and_eq_true] at hcde
      rw [ofChar_four (within_iff.1 hfour) hcde.1.1 (within_iff.1 hcde.1.2) (within_iff.1 hcde.2)]
      rfl
    · cases h

/-! ## Nothing is lost -/

/-- The bytes of the first rune are those that the text begins with. -/
theorem bytes_nextRune (b : UInt8) (t : Text) :
    (nextRune b t).1.bytes ++ (nextRune b t).2 = b :: t := by
  unfold nextRune
  split
  · next h => exact ofChar_of_sequence? h
  · rfl

/-- A text can be cut after any number of its runes. -/
theorem exists_cut (t : Text) (n : Nat) :
    ∃ v, t = (t.runes.take n).flatMap Rune.bytes ++ v ∧ v.runes = t.runes.drop n := by
  induction n generalizing t with
  | zero => exact ⟨t, rfl, rfl⟩
  | succ n ih =>
    cases t with
    | nil => exact ⟨[], by simp, by simp⟩
    | cons b t =>
      obtain ⟨v, hbytes, hrunes⟩ := ih (nextRune b t).2
      refine ⟨v, ?_, ?_⟩
      · rw [runes_cons, List.take_succ_cons, List.flatMap_cons, List.append_assoc, ← hbytes,
          bytes_nextRune]
      · rw [runes_cons, List.drop_succ_cons, hrunes]

theorem flatMap_bytes_runes (t : Text) : t.runes.flatMap Rune.bytes = t := by
  induction t using rune_induction with
  | nil => rw [runes_nil, List.flatMap_nil]
  | cons b t ih => rw [runes_cons, List.flatMap_cons, ih, bytes_nextRune]

/-! ## Bytes of ASCII -/

/-- The character of a byte, which is the byte itself in ASCII. -/
def ascii (b : UInt8) : Rune :=
  .char (Char.ofNat b.toNat)

theorem nextRune_of_lt (hb : b.toNat < 0x80) (t : Text) : nextRune b t = (ascii b, t) := by
  rw [nextRune, sequence?_of_one hb rfl]
  rfl

theorem runes_ascii (hb : b.toNat < 0x80) (t : Text) : runes (b :: t) = ascii b :: runes t := by
  rw [runes_cons, nextRune_of_lt hb]

theorem runes_ascii_append (hs : ∀ b ∈ s, b.toNat < 0x80) (t : Text) :
    runes (s ++ t) = s.map ascii ++ runes t := by
  induction s with
  | nil => rfl
  | cons b s ih =>
    rw [List.forall_mem_cons] at hs
    rw [List.cons_append, runes_ascii hs.1, ih hs.2]
    rfl

theorem flatMap_bytes_ascii (hs : ∀ b ∈ s, b.toNat < 0x80) :
    (s.map ascii).flatMap Rune.bytes = s := by
  have hrunes := runes_ascii_append hs []
  rw [runes_nil, List.append_nil, List.append_nil] at hrunes
  rw [← hrunes, flatMap_bytes_runes]

/-- A text without small letters and without letters outside of ASCII is in upper case. -/
theorem upper_of_all_lt (hall : t.all (·.toNat < 97) = true) : t.upper = t := by
  have ht : ∀ b ∈ t, b.toNat < 97 := by simpa using hall
  have hascii : ∀ b ∈ t, b.toNat < 0x80 := fun b hb => Nat.lt_trans (ht b hb) (by decide)
  have hrunes : t.runes = t.map ascii := by
    have happend := runes_ascii_append hascii []
    rwa [runes_nil, List.append_nil, List.append_nil] at happend
  have hraise (b : UInt8) (hb : b ∈ t) : raise (ascii b) = Char.ofNat b.toNat :=
    (upperChar_of_lt b.toNat (hascii b hb)).2 (ht b hb)
  calc t.upper = ((t.map ascii).map raise).flatMap ofChar := by rw [upper_eq, hrunes]
    _ = (t.map ascii).flatMap Rune.bytes := by
      rw [List.map_map, List.flatMap_def, List.flatMap_def, List.map_map, List.map_map]
      refine congrArg List.flatten (List.map_congr_left fun b hb => ?_)
      rw [Function.comp_apply, Function.comp_apply, hraise b hb]
      rfl
    _ = t := flatMap_bytes_ascii hascii

theorem ascii_ofNat {c : Char} (hc : c.toNat < 0x80) : ascii (UInt8.ofNat c.toNat) = .char c := by
  rw [ascii, toNat_ofNat_byte (by omega), Char.ofNat_toNat]

theorem ofChar_of_lt {c : Char} (hc : c.toNat < 0x80) : ofChar c = [UInt8.ofNat c.toNat] := by
  have hcode : c.val.toNat = c.toNat := rfl
  unfold ofChar String.utf8EncodeChar
  rw [hcode]
  exact if_pos (by omega)

/-- A character after ASCII has no byte of ASCII. -/
theorem high_of_mem_ofChar {c : Char} (hc : 0x80 ≤ c.toNat) (hb : b ∈ ofChar c) :
    0x80 ≤ b.toNat := by
  have hcode : c.val.toNat = c.toNat := rfl
  unfold ofChar String.utf8EncodeChar at hb
  rw [hcode] at hb
  dsimp only at hb
  split_ifs at hb <;> simp only [List.mem_cons, List.not_mem_nil, or_false] at hb
  · omega
  · rcases hb with rfl | rfl <;> rw [toNat_ofNat_byte (by omega)] <;> omega
  · rcases hb with rfl | rfl | rfl <;> rw [toNat_ofNat_byte (by omega)] <;> omega
  · rcases hb with rfl | rfl | rfl | rfl <;> rw [toNat_ofNat_byte (by omega)] <;> omega

/-- The bytes of a character after its first are continuation bytes. -/
theorem within_of_mem_tail_ofChar {c : Char} (hb : b ∈ (ofChar c).tail) :
    within 0x80 0xBF b = true := by
  have hbits (n : Nat) : within 0x80 0xBF (UInt8.ofNat (n % 64 + 128)) = true := by
    rw [within_iff, toNat_ofNat_byte (by omega)]
    change 128 ≤ n % 64 + 128 ∧ n % 64 + 128 ≤ 191
    omega
  unfold ofChar String.utf8EncodeChar at hb
  dsimp only at hb
  split_ifs at hb <;> simp only [List.tail_cons, List.mem_cons, List.not_mem_nil, or_false] at hb
  · rw [hb]
    exact hbits _
  · rcases hb with rfl | rfl <;> exact hbits _
  · rcases hb with rfl | rfl | rfl <;> exact hbits _

/-- A text that begins with no byte of ASCII begins with a rune that has none. -/
theorem high_of_mem_bytes {a : UInt8} (ha : 0x80 ≤ a.toNat) (hb : b ∈ (nextRune a t).1.bytes) :
    0x80 ≤ b.toNat := by
  have hbytes := bytes_nextRune a t
  rcases hrune : (nextRune a t).1 with c | a'
  · rw [hrune, Rune.bytes] at hb hbytes
    refine high_of_mem_ofChar (Nat.le_of_not_lt fun hc => ?_) hb
    rw [ofChar_of_lt hc, List.singleton_append, List.cons.injEq] at hbytes
    have hcode : a.toNat = c.toNat := by
      rw [← hbytes.1]
      exact toNat_ofNat_byte (by omega)
    omega
  · rw [hrune, Rune.bytes] at hb hbytes
    rw [List.singleton_append, List.cons.injEq] at hbytes
    rw [List.mem_singleton.1 hb, hbytes.1]
    exact ha

/-- A rune with a byte of ASCII is that byte. -/
theorem eq_ascii_of_mem_bytes {x : Rune} (hx : x ∈ t.runes) (hb : b ∈ x.bytes)
    (hlow : b.toNat < 0x80) : x = ascii b := by
  induction t using rune_induction with
  | nil => simp at hx
  | cons a t ih =>
    rw [runes_cons, List.mem_cons] at hx
    rcases hx with rfl | hx
    · by_cases ha : a.toNat < 0x80
      · rw [nextRune_of_lt ha] at hb ⊢
        rw [ascii, Rune.bytes, ofChar_one ha, List.mem_singleton] at hb
        rw [hb]
      · have hhigh := high_of_mem_bytes (Nat.le_of_not_lt ha) hb
        omega
    · exact ih hx

/-- Whether a text begins with something that is found in ASCII only can be asked of its first rune
or of its first byte. -/
theorem forall_head_runes {p : Rune → Bool}
    (hp : ∀ x, p x = true → ∃ c, x = .char c ∧ c.toNat < 0x80) :
    (∀ x ∈ t.runes.head?, p x = false) ↔ ∀ b ∈ t.head?, p (ascii b) = false := by
  cases t with
  | nil => simp
  | cons b t =>
    simp only [runes_cons, List.head?_cons, Option.mem_def, Option.some.injEq, forall_eq']
    by_cases hb : b.toNat < 0x80
    · rw [nextRune_of_lt hb]
    · have hrune : p (nextRune b t).1 = false := Bool.eq_false_iff.2 fun h => by
        obtain ⟨c, hx, hc⟩ := hp _ h
        have hbyte := high_of_mem_bytes (b := UInt8.ofNat c.toNat) (Nat.le_of_not_lt hb)
          (by rw [hx, Rune.bytes, ofChar_of_lt hc]; exact List.mem_singleton_self _)
        rw [toNat_ofNat_byte (by omega)] at hbyte
        omega
      have hascii : p (ascii b) = false := Bool.eq_false_iff.2 fun h => by
        obtain ⟨c, hx, hc⟩ := hp _ h
        have hlt := b.toNat_lt
        have hcode : (Char.ofNat b.toNat).val.toNat = b.toNat := val_ofNat (.inl (by omega))
        rw [Rune.char.inj hx] at hcode
        exact hb (hcode ▸ hc)
      rw [hrune, hascii]

theorem nextRune_of_ofChar_append {c : Char} {v : Text} (h : ofChar c ++ v = b :: t) :
    nextRune b t = (.char c, v) := by
  obtain ⟨b', t', hbytes, hnext⟩ := exists_nextRune_ofChar c v
  rw [h] at hbytes
  cases hbytes
  exact hnext

theorem nextRune_append (b : UInt8) (s : Text) (ht : ∀ a ∈ t.head?, within 0x80 0xBF a = false) :
    nextRune b (s ++ t) = ((nextRune b s).1, (nextRune b s).2 ++ t) := by
  rcases hs : sequence? b s with _ | ⟨n, r⟩
  · have hnone : sequence? b (s ++ t) = none := by
      rcases hst : sequence? b (s ++ t) with _ | ⟨n, r⟩
      · rfl
      · -- the sequence would end within `s`, or go on with the first byte of `t`
        have hbytes := ofChar_of_sequence? hst
        rw [← List.cons_append] at hbytes
        have hshort {v : Text} (h : ofChar (Char.ofNat n) ++ v = b :: s) : False := by
          have hnext := nextRune_of_ofChar_append h
          rw [nextRune, hs] at hnext
          cases hnext
        rcases List.append_eq_append_iff.1 hbytes with ⟨v, hv, -⟩ | ⟨u, hu, htu⟩
        · exact absurd hv.symm hshort
        · cases u with
          | nil => exact absurd hu (by simpa using hshort (v := []))
          | cons a u =>
            have hgoes : within 0x80 0xBF a = true :=
              within_of_mem_tail_ofChar (c := Char.ofNat n) (by simp [hu])
            rw [ht a (by simp [htu])] at hgoes
            cases hgoes
    rw [nextRune, nextRune, hs, hnone]
  · have hbytes := ofChar_of_sequence? hs
    have hnext : nextRune b s = (.char (Char.ofNat n), r) := by rw [nextRune, hs]
    rw [hnext]
    exact nextRune_of_ofChar_append (by rw [← List.append_assoc, hbytes, List.cons_append])

/-- Texts are read one after the other if the second does not begin with a continuation byte. -/
theorem runes_append (s : Text) (ht : ∀ a ∈ t.head?, within 0x80 0xBF a = false) :
    runes (s ++ t) = runes s ++ runes t := by
  induction s using rune_induction with
  | nil => rw [runes_nil]; rfl
  | cons b s ih =>
    rw [List.cons_append, runes_cons, runes_cons, nextRune_append b s ht, ih]
    rfl

end Text

end GridRobot
