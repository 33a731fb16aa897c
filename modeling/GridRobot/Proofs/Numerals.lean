import GridRobot.Env
import GridRobot.Proofs.Reading
import GridRobot.Proofs.Statements

/-!
# Numerals of board files and of scripts

A script reads a numeral as decimal, whatever it begins with. A board file reads one that leads with
a zero as octal, so the two agree on a numeral if and only if it leads with no zero or its value is
less than eight (`Text.Plain`, `Text.readNumeral_eq_ok_iff`). What else leads with a zero has a
lower value in a board file, or none at all if one of its digits is an eight or a nine.
-/

namespace GridRobot

namespace Text

variable {base k m : Nat} {n : Int64} {t : Text} {negative : Bool}

/-! ## Values of digits -/

/-- The value of digits in a base, put after digits that gave `k`. -/
def valueFrom (base k : Nat) (digits : Text) : Nat :=
  digits.foldl (fun k b => base * k + digitValue b) k

theorem le_valueFrom (hbase : 0 < base) (k : Nat) (t : Text) : k ≤ valueFrom base k t := by
  induction t generalizing k with
  | nil => exact Nat.le_refl k
  | cons b t ih =>
    calc k ≤ base * k := Nat.le_mul_of_pos_left k hbase
      _ ≤ base * k + digitValue b := Nat.le_add_right _ _
      _ ≤ valueFrom base k (b :: t) := ih _

theorem valueFrom_mono {base' k' : Nat} (hbase : base ≤ base') (hk : k ≤ k') (t : Text) :
    valueFrom base k t ≤ valueFrom base' k' t := by
  induction t generalizing k k' with
  | nil => exact hk
  | cons b t ih => exact ih (Nat.add_le_add_right (Nat.mul_le_mul hbase hk) _)

theorem valueFrom_concat (base : Nat) (t : Text) (b : UInt8) :
    valueFrom base 0 (t ++ [b]) = base * valueFrom base 0 t + digitValue b := by
  simp [valueFrom]

theorem digitValue_lt {b : UInt8} (h : isDigit b = true) : digitValue b < 10 := by
  simp only [isDigit, Bool.and_eq_true, decide_eq_true_eq, UInt8.le_iff_toNat_le] at h
  have hle : b.toNat ≤ 57 := h.2
  unfold digitValue
  omega

theorem digitValue_le_valueFrom (hbase : 0 < base) {b : UInt8} (hb : b ∈ t) (k : Nat) :
    digitValue b ≤ valueFrom base k t := by
  induction t generalizing k with
  | nil => cases hb
  | cons a t ih =>
    rcases List.mem_cons.1 hb with rfl | hb
    · exact Nat.le_trans (Nat.le_add_left _ _) (le_valueFrom hbase _ t)
    · exact ih hb _

/-- Digits below eight have the same value in base eight as in base ten if only the last counts. -/
theorem valueFrom_eq_decimalValue_iff (ht : ∀ b ∈ t, digitValue b < 8) :
    valueFrom 8 0 t = decimalValue t ↔ decimalValue t < 8 := by
  rcases List.eq_nil_or_concat t with rfl | ⟨t, b, rfl⟩
  · simp [valueFrom, decimalValue]
  · have hb : digitValue b < 8 := ht b (by simp)
    have hle : valueFrom 8 0 t ≤ decimalValue t := valueFrom_mono (by decide) (Nat.le_refl 0) t
    rw [List.concat_eq_append, valueFrom_concat, decimalValue_concat]
    omega

/-- What comes of digits that are not too many for 64 bits: their value, or a fault if one of them
is no digit of the base. -/
theorem readMagnitude_eq (hbase : 0 < base) (hdigits : ∀ b ∈ t, isDigit b = true)
    (hfits : valueFrom base k t < UInt64.size) :
    readMagnitude base k t =
      if t.all (digitValue · < base) then .ok (valueFrom base k t) else .error .malformed := by
  induction t generalizing k with
  | nil => simp [readMagnitude, valueFrom]
  | cons b t ih =>
    rw [List.forall_mem_cons] at hdigits
    rw [readMagnitude, hdigits.1]
    by_cases hb : digitValue b < base
    · have hlt : base * k + digitValue b < UInt64.size :=
        Nat.lt_of_le_of_lt (le_valueFrom hbase _ t) hfits
      rw [Nat.mul_comm k base, if_neg (by simpa using hb), if_neg (Nat.not_le.2 hlt),
        ih hdigits.2 hfits]
      simp only [List.all_cons, hb, decide_true, Bool.true_and]
      rfl
    · rw [if_pos (by simpa using hb), if_neg]
      intro hall
      exact hb (by simpa using List.all_eq_true.1 hall b List.mem_cons_self)

/-! ## Signs -/

/-- A magnitude with its sign. -/
def withSign (negative : Bool) (m : Nat) : Int :=
  if negative then -m else m

theorem natAbs_withSign (negative : Bool) (m : Nat) : (withSign negative m).natAbs = m := by
  cases negative <;> simp [withSign]

theorem withSign_inj {m' : Nat} (h : withSign negative m = withSign negative m') : m = m' := by
  rw [← natAbs_withSign negative m, h, natAbs_withSign]

theorem ofInt_eq_iff {i : Int} (hle : -maxMagnitude ≤ i) (hlt : i < maxMagnitude) :
    Int64.ofInt i = n ↔ n.toInt = i := by
  constructor
  · rintro rfl
    exact Int64.toInt_ofInt_of_le hle hlt
  · rintro rfl
    exact n.ofInt_toInt

/-- A sign and a magnitude make the number that has them, if there is one. -/
theorem signed?_eq_some_iff : signed? negative m = some n ↔ n.toInt = withSign negative m := by
  have hlt : n.toInt < maxMagnitude := n.toInt_lt
  have hle : -maxMagnitude ≤ n.toInt := n.le_toInt
  have hpos : 0 < maxMagnitude := by decide
  unfold signed? withSign
  split_ifs with hneg hm hm
  · rw [Option.some.injEq, ofInt_eq_iff (by omega) (by omega)]
  · simp only [false_iff]
    omega
  · rw [Option.some.injEq, ofInt_eq_iff (by omega) (by omega)]
  · simp only [false_iff]
    omega

/-- A number with a lower magnitude can be made too. -/
theorem exists_signed? {m' : Nat} (h : signed? negative m = some n) (hle : m' ≤ m) :
    ∃ n', signed? negative m' = some n' := by
  unfold signed? at h ⊢
  split_ifs at h ⊢ <;> first | exact ⟨_, rfl⟩ | omega

/-! ## Numerals -/

/-- The digits of a numeral. -/
def digits (t : Text) : Text :=
  (splitSign t).2

/-- Whether a numeral leads with a zero. -/
def LeadsWithZero (t : Text) : Prop :=
  t.digits.head? = some 48

/-- Whether each digit of a numeral is one of base eight. -/
def HasOctalDigits (t : Text) : Prop :=
  ∀ b ∈ t.digits, digitValue b < 8

/-- The value of a numeral in base eight. -/
def octal (t : Text) : Int :=
  withSign (splitSign t).1 (valueFrom 8 0 t.digits)

/-- Whether the value of a numeral does not depend on whether a leading zero makes it octal: it has
none, or nothing but its last digit counts. -/
def Plain (t : Text) : Prop :=
  t.LeadsWithZero → decimalValue t.digits < 8

instance (t : Text) : Decidable t.LeadsWithZero :=
  inferInstanceAs (Decidable (_ = _))

instance (t : Text) : Decidable t.HasOctalDigits :=
  inferInstanceAs (Decidable (∀ b ∈ _, _))

instance (t : Text) : Decidable t.Plain :=
  inferInstanceAs (Decidable (_ → _))

theorem readDecimal?_eq_some_iff : readDecimal? t = some n ↔
    (t.digits ≠ [] ∧ ∀ b ∈ t.digits, isDigit b = true) ∧
      n.toInt = withSign (splitSign t).1 (decimalValue t.digits) := by
  have hform : (t.digits.isEmpty || !t.digits.all isDigit) = true ↔
      ¬ (t.digits ≠ [] ∧ ∀ b ∈ t.digits, isDigit b = true) := by
    rw [Bool.or_eq_true, List.isEmpty_iff, Bool.not_eq_true', ← Bool.not_eq_true, List.all_eq_true,
      not_and_or, not_not]
  rw [← signed?_eq_some_iff]
  change (if t.digits.isEmpty || !t.digits.all isDigit then none
    else signed? (splitSign t).1 (decimalValue t.digits)) = some n ↔ _
  by_cases h : t.digits ≠ [] ∧ ∀ b ∈ t.digits, isDigit b = true
  · rw [if_neg (fun hbad => hform.1 hbad h), and_iff_right h]
  · rw [if_pos (hform.2 h)]
    simp [h]

/-- The magnitude that the digits of a numeral give in a board file. -/
def boardMagnitude : Text → Except NumeralError Nat
  | [] => .error .malformed
  | 48 :: rest => readMagnitude 8 0 rest
  | b :: rest => readMagnitude 10 0 (b :: rest)

theorem readNumeral_eq (t : Text) :
    readNumeral t = (boardMagnitude t.digits).bind fun m =>
      match signed? (splitSign t).1 m with
      | some n => .ok n
      | none => .error .outOfRange := by
  unfold readNumeral boardMagnitude digits
  rcases splitSign t with ⟨negative, digits⟩
  dsimp only
  split
  · rfl
  · rfl
  · next hnil hzero =>
    split
    · exact absurd rfl hnil
    · exact absurd rfl (hzero _)
    · rfl

theorem boardMagnitude_of_leadsWithZero (hzero : t.LeadsWithZero)
    (hdigits : ∀ b ∈ t.digits, isDigit b = true) (hfits : valueFrom 8 0 t.digits < UInt64.size) :
    boardMagnitude t.digits =
      if t.HasOctalDigits then .ok (valueFrom 8 0 t.digits) else .error .malformed := by
  obtain ⟨rest, hrest⟩ := List.head?_eq_some_iff.1 hzero
  have hoctal : t.HasOctalDigits ↔ rest.all (digitValue · < 8) = true := by
    rw [HasOctalDigits, hrest, List.forall_mem_cons, and_iff_right (by decide)]
    simp
  rw [hrest, List.forall_mem_cons] at hdigits
  rw [hrest] at hfits ⊢
  calc boardMagnitude (48 :: rest)
      = readMagnitude 8 0 rest := rfl
    _ = if rest.all (digitValue · < 8) then .ok (valueFrom 8 0 rest) else .error .malformed :=
        readMagnitude_eq (by decide) hdigits.2 hfits
    _ = if t.HasOctalDigits then .ok (valueFrom 8 0 rest) else .error .malformed := by
        simp only [hoctal]

theorem boardMagnitude_of_not_leadsWithZero (hzero : ¬ t.LeadsWithZero) (hne : t.digits ≠ [])
    (hdigits : ∀ b ∈ t.digits, isDigit b = true) (hfits : decimalValue t.digits < UInt64.size) :
    boardMagnitude t.digits = .ok (decimalValue t.digits) := by
  have hread : boardMagnitude t.digits = readMagnitude 10 0 t.digits := by
    rw [LeadsWithZero] at hzero
    unfold boardMagnitude
    split
    · next hnil => exact absurd hnil hne
    · next hcons => exact absurd (by rw [hcons]; rfl) hzero
    · next hcons => rw [hcons]
  have hten : t.digits.all (digitValue · < 10) = true :=
    List.all_eq_true.2 fun b hb => decide_eq_true (digitValue_lt (hdigits b hb))
  rw [hread, readMagnitude_eq (by decide) hdigits hfits, if_pos hten]
  rfl

theorem decimalValue_lt (h : readDecimal? t = some n) : decimalValue t.digits < UInt64.size := by
  have hsign := (readDecimal?_eq_some_iff.1 h).2
  have hlt : n.toInt < maxMagnitude := n.toInt_lt
  have hle : -maxMagnitude ≤ n.toInt := n.le_toInt
  have hmax : 2 * maxMagnitude = UInt64.size := rfl
  rw [← natAbs_withSign (splitSign t).1 (decimalValue t.digits), ← hsign]
  omega

theorem readNumeral_of_magnitude (hmagnitude : boardMagnitude t.digits = .ok m)
    (hsign : n.toInt = withSign (splitSign t).1 m) : readNumeral t = .ok n := by
  rw [readNumeral_eq, hmagnitude]
  simp [Except.bind, signed?_eq_some_iff.2 hsign]

theorem readNumeral_of_not_leadsWithZero (h : readDecimal? t = some n) (hzero : ¬ t.LeadsWithZero) :
    readNumeral t = .ok n := by
  obtain ⟨⟨hne, hdigits⟩, hsign⟩ := readDecimal?_eq_some_iff.1 h
  exact readNumeral_of_magnitude
    (boardMagnitude_of_not_leadsWithZero hzero hne hdigits (decimalValue_lt h)) hsign

theorem octalValue_le (t : Text) : valueFrom 8 0 t ≤ decimalValue t :=
  valueFrom_mono (by decide) (Nat.le_refl 0) t

theorem readNumeral_of_hasOctalDigits (h : readDecimal? t = some n) (hzero : t.LeadsWithZero)
    (hoctal : t.HasOctalDigits) : ∃ m, readNumeral t = .ok m ∧ m.toInt = t.octal := by
  obtain ⟨⟨-, hdigits⟩, hsign⟩ := readDecimal?_eq_some_iff.1 h
  obtain ⟨m, hm⟩ := exists_signed? (signed?_eq_some_iff.2 hsign) (octalValue_le t.digits)
  have hvalue : m.toInt = t.octal := signed?_eq_some_iff.1 hm
  have hmagnitude := boardMagnitude_of_leadsWithZero hzero hdigits
    (Nat.lt_of_le_of_lt (octalValue_le _) (decimalValue_lt h))
  rw [if_pos hoctal] at hmagnitude
  exact ⟨m, readNumeral_of_magnitude hmagnitude hvalue, hvalue⟩

theorem readNumeral_of_not_hasOctalDigits (h : readDecimal? t = some n) (hzero : t.LeadsWithZero)
    (hoctal : ¬ t.HasOctalDigits) : readNumeral t = .error .malformed := by
  obtain ⟨⟨-, hdigits⟩, -⟩ := readDecimal?_eq_some_iff.1 h
  have hmagnitude := boardMagnitude_of_leadsWithZero hzero hdigits
    (Nat.lt_of_le_of_lt (octalValue_le _) (decimalValue_lt h))
  rw [if_neg hoctal] at hmagnitude
  rw [readNumeral_eq, hmagnitude]
  rfl

/-- A numeral has its decimal value in a board file if it is plain, and only then. -/
theorem readNumeral_eq_ok_iff (h : readDecimal? t = some n) : readNumeral t = .ok n ↔ t.Plain := by
  by_cases hzero : t.LeadsWithZero
  · have hplain : t.Plain ↔ decimalValue t.digits < 8 := forall_prop_of_true hzero
    rw [hplain]
    by_cases hoctal : t.HasOctalDigits
    · obtain ⟨m, hm, hvalue⟩ := readNumeral_of_hasOctalDigits h hzero hoctal
      have hsign := (readDecimal?_eq_some_iff.1 h).2
      rw [hm, ← valueFrom_eq_decimalValue_iff hoctal, Except.ok.injEq]
      constructor
      · rintro rfl
        exact withSign_inj (hvalue.symm.trans hsign)
      · intro heq
        apply Int64.toInt_inj.1
        rw [hvalue, hsign, octal, heq]
    · rw [readNumeral_of_not_hasOctalDigits h hzero hoctal]
      simp only [HasOctalDigits, not_forall, Nat.not_lt] at hoctal
      obtain ⟨b, hb, hle⟩ := hoctal
      have hvalue : digitValue b ≤ decimalValue t.digits :=
        digitValue_le_valueFrom (by decide) hb 0
      simp only [reduceCtorEq, false_iff]
      omega
  · rw [readNumeral_of_not_leadsWithZero h hzero, eq_self_iff_true, true_iff]
    exact fun hzero' => absurd hzero' hzero

/-- The value of a numeral that is octal if it leads with a zero and decimal otherwise. -/
def zeroOctal? (t : Text) : Option Int64 :=
  if t.LeadsWithZero then
    if t.HasOctalDigits then some (Int64.ofInt t.octal) else none
  else readDecimal? t

/-- What a number is written as does not lead with a zero, unless the number is zero. -/
theorem eq_zero_of_head?_ofNat (h : (ofNat m).head? = some 48) : m = 0 := by
  induction m using ofNat.induct with
  | case1 m hm =>
    rw [ofNat, if_pos hm, List.head?_cons, Option.some.injEq] at h
    rw [← digitValue_digit hm, h]
    rfl
  | case2 m hm ih =>
    rw [ofNat, if_neg hm, List.head?_append_of_ne_nil _ (ofNat_ne_nil _)] at h
    have hlow := ih h
    omega

theorem plain_ofInt64 (n : Int64) : (ofInt64 n).Plain := by
  intro hzero
  unfold LeadsWithZero at hzero
  have hdigits : ∃ m, (ofInt64 n).digits = ofNat m := by
    unfold ofInt64
    rcases n.toInt with m | m
    · exact ⟨m, by rw [ofInt, digits, splitSign_ofNat]⟩
    · exact ⟨m + 1, rfl⟩
  obtain ⟨m, hm⟩ := hdigits
  rw [hm] at hzero ⊢
  rw [decimalValue_ofNat, eq_zero_of_head?_ofNat hzero]
  decide

end Text

namespace BoardFile

variable {t : Text} {n : Int64} {es : List Entry} {cs : List Content} {l : Layout}

theorem boardNumber?_eq_zeroOctal? (h : Text.readDecimal? t = some n) :
    boardNumber? t = t.zeroOctal? := by
  unfold Text.zeroOctal?
  split_ifs with hzero hoctal
  · obtain ⟨m, hm, hvalue⟩ := Text.readNumeral_of_hasOctalDigits h hzero hoctal
    rw [boardNumber?_of_ok hm, ← hvalue, m.ofInt_toInt]
  · exact boardNumber?_of_error (Text.readNumeral_of_not_hasOctalDigits h hzero hoctal)
  · rw [boardNumber?_of_ok (Text.readNumeral_of_not_leadsWithZero h hzero), h]

theorem boardNumber?_eq_readDecimal?_iff (h : Text.readDecimal? t = some n) :
    boardNumber? t = Text.readDecimal? t ↔ t.Plain := by
  rw [h, ← Text.readNumeral_eq_ok_iff h, boardNumber?]
  cases Text.readNumeral t <;> simp [Except.toOption]

theorem boardNumber?_eq_none_iff (h : Text.readDecimal? t = some n) :
    boardNumber? t = none ↔ t.LeadsWithZero ∧ ¬ t.HasOctalDigits := by
  rw [boardNumber?_eq_zeroOctal? h, Text.zeroOctal?]
  split_ifs with hzero hoctal <;> simp [*]

/-- A layout that the entries of a text describe in decimal is read from it if all numerals are
plain, and only then. -/
theorem Laid.read_eq_ok_iff_plain (hlaid : Laid (es.flatMap Entry.pieces) t)
    (hmeans : es.Forall₂ (Entry.Means Text.readDecimal?) cs) (hdescribes : Describes cs l) :
    read t = .ok l ↔ ∀ u ∈ es.flatMap Entry.numerals, u.Plain := by
  have hplain : es.Forall₂ (Entry.Means boardNumber?) cs ↔
      ∀ u ∈ es.flatMap Entry.numerals, u.Plain := by
    rw [means_iff_of_means hmeans]
    refine forall₂_congr fun u hu => ?_
    obtain ⟨n, hn⟩ := exists_number_of_means hmeans hu
    exact boardNumber?_eq_readDecimal?_iff hn
  rw [hlaid.read_eq_ok_iff, ← hplain]
  constructor
  · rintro ⟨cs', hmeans', hdescribes'⟩
    have hwords : cs'.map Content.word = cs.map Content.word :=
      (words_of_means hmeans').trans (words_of_means hmeans).symm
    rwa [← hdescribes'.unique hdescribes hwords]
  · intro hboard
    exact ⟨cs, hboard, hdescribes⟩

/-- A numeral is blamed if one of them leads with a zero and has a digit above seven, and only then.
-/
theorem Laid.exists_blame_iff (hlaid : Laid (es.flatMap Entry.pieces) t)
    (hmeans : es.Forall₂ (Entry.Means Text.readDecimal?) cs) :
    (∃ f, read t = .error f ∧ f.Blames (es.flatMap Entry.numerals)) ↔
      ∃ u ∈ es.flatMap Entry.numerals, u.LeadsWithZero ∧ ¬ u.HasOctalDigits := by
  constructor
  · rintro ⟨f, -, place, u, why, hu, hread, -⟩
    obtain ⟨n, hn⟩ := exists_number_of_means hmeans hu
    exact ⟨u, hu, (boardNumber?_eq_none_iff hn).1 (boardNumber?_of_error hread)⟩
  · rintro ⟨u, hu, hbad⟩
    refine hlaid.blames_of_read fun cs' hmeans' => ?_
    obtain ⟨n, hn⟩ := exists_number_of_means hmeans hu
    obtain ⟨m, hm⟩ := exists_number_of_means hmeans' hu
    rw [(boardNumber?_eq_none_iff hn).2 hbad] at hm
    cases hm

/-- Where a file is laid out in statements whose numerals all have decimal values, board files and
scripts read such a numeral alike if it leads with no zero or its value is less than eight, and only
then. No file is refused for it unless it leads with a zero and has a digit above seven. The file is
read with the numerals that lead with a zero in octal, and as what it describes in decimal if and
only if all its numerals are plain. It is refused for a numeral if one of them leads with a zero and
has a digit above seven, and only then. -/
theorem leading_zero_means_octal (hlaid : Laid (es.flatMap Entry.pieces) t)
    (hmeans : es.Forall₂ (Entry.Means Text.readDecimal?) cs) :
    (∀ u ∈ es.flatMap Entry.numerals, ∀ env : Env,
      Text.readDecimal? u = some (env.evaluate u) ∧
      (Text.readNumeral u = .ok (env.evaluate u) ↔ u.Plain) ∧
      ∀ file place why, read file = .error (.badNumber place u why) →
        u.LeadsWithZero ∧ ¬ u.HasOctalDigits) ∧
    (∀ l, read t = .ok l ↔
      ∃ cs', es.Forall₂ (Entry.Means Text.zeroOctal?) cs' ∧ Describes cs' l) ∧
    (∀ l, Describes cs l → (read t = .ok l ↔ ∀ u ∈ es.flatMap Entry.numerals, u.Plain)) ∧
    ((∃ f, read t = .error f ∧ f.Blames (es.flatMap Entry.numerals)) ↔
      ∃ u ∈ es.flatMap Entry.numerals, u.LeadsWithZero ∧ ¬ u.HasOctalDigits) := by
  refine ⟨fun u hu env => ?_, fun l => ?_, fun l => hlaid.read_eq_ok_iff_plain hmeans,
    hlaid.exists_blame_iff hmeans⟩
  · obtain ⟨n, hn⟩ := exists_number_of_means hmeans hu
    have hvalue : env.evaluate u = n := by rw [Env.evaluate, hn]
    rw [hvalue]
    refine ⟨hn, Text.readNumeral_eq_ok_iff hn, fun file place why hread => ?_⟩
    have hnone := boardNumber?_of_error (BlamesRightly.read file place u why hread)
    exact (boardNumber?_eq_none_iff hn).1 hnone
  · have hread : ∀ u ∈ es.flatMap Entry.numerals, boardNumber? u = u.zeroOctal? := fun u hu => by
      obtain ⟨n, hn⟩ := exists_number_of_means hmeans hu
      exact boardNumber?_eq_zeroOctal? hn
    rw [hlaid.read_eq_ok_iff]
    simp only [means_congr hread]

/-- A size of ten that leads with a zero is ten in a script and eight in a board file. -/
theorem size_ten_with_leading_zero :
    ∃ (es : List Entry) (cs : List Content),
      Laid (es.flatMap Entry.pieces) (Text.ofString "SIZE 010\nTARGET 2 2\n") ∧
      es.Forall₂ (Entry.Means Text.readDecimal?) cs ∧ Describes cs ⟨10, ⟨0, 0⟩, ⟨2, 2⟩, []⟩ ∧
      Text.readNumeral (Text.ofString "010") ≠ .ok (Env.empty.evaluate (Text.ofString "010")) ∧
      read (Text.ofString "SIZE 010\nTARGET 2 2\n") = .ok ⟨8, ⟨0, 0⟩, ⟨2, 2⟩, []⟩ := by
  let es : List Entry := [⟨.size, Text.ofString "SIZE", [Text.ofString "010"], rfl⟩,
    ⟨.target, Text.ofString "TARGET", [Text.ofString "2", Text.ofString "2"], rfl⟩]
  have hlaid : Laid (es.flatMap Entry.pieces) (Text.ofString "SIZE 010\nTARGET 2 2\n") := by
    have hpieces : (scan (Text.ofString "SIZE 010\nTARGET 2 2\n")).map
        (fun out => out.tokens.map Token.piece) = .ok (es.flatMap Entry.pieces) := by
      decide +kernel
    rcases hscan : scan (Text.ofString "SIZE 010\nTARGET 2 2\n") with f | out
    · rw [hscan] at hpieces
      cases hpieces
    · rw [hscan] at hpieces
      exact exists_scan_iff.1 ⟨out, hscan, Except.ok.inj hpieces⟩
  have hmeans : es.Forall₂ (Entry.Means Text.readDecimal?) [.size 10, .target ⟨2, 2⟩] :=
    .cons ⟨rfl, by decide⟩ (.cons ⟨rfl, by decide⟩ .nil)
  have hoctal : es.Forall₂ (Entry.Means Text.zeroOctal?) [.size 8, .target ⟨2, 2⟩] :=
    .cons ⟨rfl, by decide +kernel⟩ (.cons ⟨rfl, by decide +kernel⟩ .nil)
  obtain ⟨hnumerals, hread, -, -⟩ := leading_zero_means_octal hlaid hmeans
  refine ⟨es, _, hlaid, hmeans, ⟨rfl, rfl, ⟨none, rfl, rfl⟩, rfl⟩, fun halike => ?_, ?_⟩
  · have hplain := (hnumerals _ List.mem_cons_self Env.empty).2.1.1 halike
    exact absurd hplain (by decide +kernel)
  · exact (hread _).2 ⟨_, hoctal, ⟨rfl, rfl, ⟨none, rfl, rfl⟩, rfl⟩⟩

end BoardFile

end GridRobot
