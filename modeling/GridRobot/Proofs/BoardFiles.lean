import GridRobot.Proofs.Numerals

/-!
# Board files read back

A board file is written from its statements: each keyword in letters of either case, each number in
decimal, and words set apart by white space and comments (`Entry.Writes`, `Spread`). Such a file is
laid out as its entries (`Spread.laid`), and since a number is written without a leading zero it is
read back as it is. So the file gives the layout that its statements describe, and fails if they
describe none (`exists_describes_iff`).
-/

namespace GridRobot

namespace BoardFile

variable {b : UInt8} {t v : Text} {ps : List Piece} {us : List Text} {e : Entry} {es : List Entry}
  {c : Content} {cs : List Content}

/-! ## Words set apart -/

/-- White space and comments, each of these ended by a line feed. -/
inductive Gap : Text → Prop where
  | nil : Gap []
  | blank {b : UInt8} {v : Text} (hb : isGapByte b = true) (hrest : Gap v) : Gap (b :: v)
  | comment {body v : Text} (hbody : 10 ∉ body) (hrest : Gap v) : Gap (35 :: (body ++ 10 :: v))

/-- Words with a gap before each that is not empty, and a gap at the end. -/
inductive Apart : List Text → Text → Prop where
  | nil {v : Text} (hv : Gap v) : Apart [] v
  | cons {v u t : Text} {us : List Text} (hv : Gap v) (hne : v ≠ []) (hrest : Apart us t) :
      Apart (u :: us) (v ++ (u ++ t))

/-- Words set apart by gaps that are not empty, with gaps at the beginning and at the end. -/
inductive Spread : List Text → Text → Prop where
  | nil {v : Text} (hv : Gap v) : Spread [] v
  | cons {v u t : Text} {us : List Text} (hv : Gap v) (hrest : Apart us t) :
      Spread (u :: us) (v ++ (u ++ t))

theorem Gap.laid (hv : Gap v) (h : Laid ps t) : Laid ps (v ++ t) := by
  induction hv with
  | nil => exact h
  | blank hb _ ih => exact .blank hb ih
  | @comment body v hbody _ ih =>
    rw [List.cons_append, List.append_assoc]
    refine .comment hbody ?_ (.blank (by decide) ih)
    intro b hb
    exact (Option.some.inj hb).symm

theorem Gap.laid_nil (hv : Gap v) : Laid [] v := by
  have hlaid := hv.laid .done
  rwa [List.append_nil] at hlaid

/-- A gap begins with white space or with a number sign. -/
theorem Gap.head (hv : Gap v) : ∀ b ∈ v.head?, isGapByte b = true ∨ b = 35 := by
  intro b hb
  cases hv with
  | nil => cases hb
  | blank hgap _ =>
    cases hb
    exact .inl hgap
  | comment _ _ =>
    cases hb
    exact .inr rfl

theorem Apart.head (h : Apart us t) : ∀ b ∈ t.head?, isGapByte b = true ∨ b = 35 := by
  cases h with
  | nil hv => exact hv.head
  | cons hv hne _ =>
    rw [List.head?_append_of_ne_nil _ hne]
    exact hv.head

/-- No piece goes on with white space or with a comment. -/
theorem TokenKind.goesOn_of_gap (kind : TokenKind) (hb : isGapByte b = true ∨ b = 35) :
    kind.goesOn b = false := by
  have hmem : b = 32 ∨ b = 9 ∨ b = 10 ∨ b = 13 ∨ b = 12 ∨ b = 35 := by
    simpa [isGapByte, or_assoc] using hb
  cases kind <;> rcases hmem with rfl | rfl | rfl | rfl | rfl | rfl <;> rfl

theorem Apart.laid (h : Apart (ps.map Prod.snd) t) (hps : ∀ p ∈ ps, Spelt p) : Laid ps t := by
  induction ps generalizing t with
  | nil =>
    cases h with
    | nil hv => exact hv.laid_nil
  | cons p ps ih =>
    rw [List.forall_mem_cons] at hps
    cases h with
    | cons hv hne hrest =>
      exact hv.laid (.piece hps.1 (fun b hb => p.1.goesOn_of_gap (hrest.head b hb))
        (ih hrest hps.2))

/-- Pieces whose texts are set apart are laid out. -/
theorem Spread.laid (h : Spread (ps.map Prod.snd) t) (hps : ∀ p ∈ ps, Spelt p) : Laid ps t := by
  cases ps with
  | nil =>
    cases h with
    | nil hv => exact hv.laid_nil
  | cons p ps =>
    rw [List.forall_mem_cons] at hps
    cases h with
    | cons hv hrest =>
      exact hv.laid (.piece hps.1 (fun b hb => p.1.goesOn_of_gap (hrest.head b hb))
        (hrest.laid hps.2))

/-! ## Written statements -/

/-- The words of an entry. -/
def Entry.words (e : Entry) : List Text :=
  e.keyword :: e.numerals

/-- Whether an entry writes a statement: the keyword in letters of either case, and each number in
decimal. -/
structure Entry.Writes (e : Entry) (c : Content) : Prop where
  word : e.word = c.word
  keyword : ∃ letters : List Char, letters.map Char.toUpper = c.word.letters ∧
    e.keyword = letters.flatMap Text.ofChar
  numerals : e.numerals = c.numbers.map Text.ofInt64

theorem isNumeral_ofInt64 (n : Int64) : IsNumeral (Text.ofInt64 n) := by
  unfold Text.ofInt64
  rcases n.toInt with m | m
  · exact ⟨[], Text.ofNat m, rfl, .inl rfl, Text.ofNat_ne_nil m, fun _ => Text.isDigit_of_mem_ofNat⟩
  · exact ⟨[45], Text.ofNat (m + 1), rfl, .inr (.inr rfl), Text.ofNat_ne_nil _,
      fun _ => Text.isDigit_of_mem_ofNat⟩

theorem boardNumber?_ofInt64 (n : Int64) : boardNumber? (Text.ofInt64 n) = some n :=
  boardNumber?_of_ok
    ((Text.readNumeral_eq_ok_iff (Text.readDecimal?_ofInt64 n)).2 (Text.plain_ofInt64 n))

theorem Entry.Writes.spelt (h : e.Writes c) : ∀ p ∈ e.pieces, Spelt p := by
  obtain ⟨hword, ⟨letters, hletters, hkeyword⟩, hnumerals⟩ := h
  unfold pieces
  rw [hnumerals, hkeyword, hword, List.forall_mem_cons]
  refine ⟨.keyword (Word.speltBy_of_toUpper hletters), fun p hp => ?_⟩
  obtain ⟨u, hu, rfl⟩ := List.mem_map.1 hp
  obtain ⟨n, -, rfl⟩ := List.mem_map.1 hu
  exact .number (isNumeral_ofInt64 n)

theorem Entry.Writes.means (h : e.Writes c) : e.Means boardNumber? c := by
  refine ⟨h.word, ?_⟩
  rw [h.numerals, List.map_map]
  exact List.map_congr_left fun n _ => boardNumber?_ofInt64 n

theorem map_snd_pieces (es : List Entry) :
    (es.flatMap Entry.pieces).map Prod.snd = es.flatMap Entry.words := by
  have hentry (e : Entry) : e.pieces.map Prod.snd = e.words := by
    simp [Entry.pieces, Entry.words, Function.comp_def]
  simp only [List.map_flatMap, hentry]

theorem spelt_of_writes (h : es.Forall₂ Entry.Writes cs) :
    ∀ p ∈ es.flatMap Entry.pieces, Spelt p := by
  induction h with
  | nil => simp
  | cons hwrites _ ih =>
    rw [List.flatMap_cons, List.forall_mem_append]
    exact ⟨hwrites.spelt, ih⟩

/-- A file that is written from statements is laid out as its entries. -/
theorem laid_of_writes (hwrites : es.Forall₂ Entry.Writes cs)
    (hspread : Spread (es.flatMap Entry.words) t) : Laid (es.flatMap Entry.pieces) t := by
  rw [← map_snd_pieces] at hspread
  exact hspread.laid (spelt_of_writes hwrites)

/-- Statements describe a layout if each keyword but that of obstacles stands as often as it may. -/
theorem exists_describes_iff : (∃ l, Describes cs l) ↔
    (cs.map Content.word).count .size = 1 ∧ (cs.map Content.word).count .target = 1 ∧
      (cs.map Content.word).count .robot ≤ 1 := by
  rw [← length_filterMap Content.isSome_size?, ← length_filterMap Content.isSome_target?,
    ← length_filterMap Content.isSome_robot?]
  constructor
  · rintro ⟨l, hsize, htarget, ⟨r, hrobot, -⟩, -⟩
    rw [hsize, htarget, hrobot]
    exact ⟨rfl, rfl, by cases r <;> simp⟩
  · rintro ⟨hsize, htarget, hrobot⟩
    obtain ⟨n, hn⟩ := List.length_eq_one_iff.1 hsize
    obtain ⟨p, hp⟩ := List.length_eq_one_iff.1 htarget
    have hplace : ∃ r : Option Position, cs.filterMap Content.robot? = r.toList := by
      rcases hr : cs.filterMap Content.robot? with _ | ⟨r, _ | ⟨r', rs⟩⟩
      · exact ⟨none, rfl⟩
      · exact ⟨some r, rfl⟩
      · simp [hr] at hrobot
    obtain ⟨r, hr⟩ := hplace
    exact ⟨⟨n, r.getD .origin, p, cs.filterMap Content.obstacle?⟩, hn, hp, ⟨r, hr, rfl⟩, rfl⟩

/-- A file that is written from statements is read as the layout that they describe, and can be read
if the size and the target are given once and the robot's place at most once, and only then. Every
file that can be read is laid out in entries: keywords in some spelling, each with as many numerals
as it needs, which mean statements that describe the layout. -/
theorem board_files_read_back :
    (∀ (es : List Entry) (cs : List Content) (t : Text),
      es.Forall₂ Entry.Writes cs → Spread (es.flatMap Entry.words) t →
      ((∃ l, read t = .ok l) ↔
        (cs.map Content.word).count .size = 1 ∧ (cs.map Content.word).count .target = 1 ∧
          (cs.map Content.word).count .robot ≤ 1) ∧
      ∀ l, read t = .ok l ↔ Describes cs l) ∧
    ∀ (t : Text) (l : Layout), read t = .ok l →
      ∃ (es : List Entry) (cs : List Content), Laid (es.flatMap Entry.pieces) t ∧
        es.Forall₂ (Entry.Means boardNumber?) cs ∧ Describes cs l := by
  constructor
  · intro es cs t hwrites hspread
    have hmeans : es.Forall₂ (Entry.Means boardNumber?) cs :=
      hwrites.imp fun _ _ => Entry.Writes.means
    have hread : ∀ l, read t = .ok l ↔ Describes cs l := fun l => by
      rw [(laid_of_writes hwrites hspread).read_eq_ok_iff]
      constructor
      · rintro ⟨cs', hmeans', hdescribes⟩
        rwa [means_unique hmeans hmeans']
      · intro hdescribes
        exact ⟨cs, hmeans, hdescribes⟩
    refine ⟨?_, hread⟩
    simp only [hread]
    exact exists_describes_iff
  · intro t l h
    obtain ⟨es, hlaid⟩ := exists_laid_of_read h
    obtain ⟨cs, hmeans, hdescribes⟩ := hlaid.read_eq_ok_iff.1 h
    exact ⟨es, cs, hlaid, hmeans, hdescribes⟩

/-- Keywords in several spellings, a comment in the place of a blank, and an obstacle given twice.
-/
theorem obstacle_written_twice_read_twice :
    ∃ (es : List Entry) (cs : List Content), es.Forall₂ Entry.Writes cs ∧
      Spread (es.flatMap Entry.words)
        (Text.ofString "obstacle -1 0 Size 3#a\nTARGET 2 2\tOBSTACLE -1 0\n") ∧
      read (Text.ofString "obstacle -1 0 Size 3#a\nTARGET 2 2\tOBSTACLE -1 0\n") =
        .ok ⟨3, ⟨0, 0⟩, ⟨2, 2⟩, [⟨-1, 0⟩, ⟨-1, 0⟩]⟩ := by
  let es : List Entry :=
    [⟨.obstacle, Text.ofString "obstacle", [Text.ofString "-1", Text.ofString "0"], rfl⟩,
      ⟨.size, Text.ofString "Size", [Text.ofString "3"], rfl⟩,
      ⟨.target, Text.ofString "TARGET", [Text.ofString "2", Text.ofString "2"], rfl⟩,
      ⟨.obstacle, Text.ofString "OBSTACLE", [Text.ofString "-1", Text.ofString "0"], rfl⟩]
  have hwrites : es.Forall₂ Entry.Writes
      [.obstacle ⟨-1, 0⟩, .size 3, .target ⟨2, 2⟩, .obstacle ⟨-1, 0⟩] := by
    refine .cons ⟨rfl, ⟨"obstacle".toList, by decide, by decide⟩, by decide +kernel⟩ ?_
    refine .cons ⟨rfl, ⟨"Size".toList, by decide, by decide⟩, by decide +kernel⟩ ?_
    refine .cons ⟨rfl, ⟨"TARGET".toList, by decide, by decide⟩, by decide +kernel⟩ ?_
    exact .cons ⟨rfl, ⟨"OBSTACLE".toList, by decide, by decide⟩, by decide +kernel⟩ .nil
  have hspread : Spread (es.flatMap Entry.words)
      (Text.ofString "obstacle -1 0 Size 3#a\nTARGET 2 2\tOBSTACLE -1 0\n") := by
    have hspace : Gap [32] := .blank rfl .nil
    have hcomment : Gap [35, 97, 10] := @Gap.comment [97] [] (by decide) .nil
    refine .cons (v := []) .nil (.cons (v := [32]) hspace (by decide) ?_)
    refine .cons (v := [32]) hspace (by decide) (.cons (v := [32]) hspace (by decide) ?_)
    refine .cons (v := [32]) hspace (by decide) (.cons (v := [35, 97, 10]) hcomment (by decide) ?_)
    refine .cons (v := [32]) hspace (by decide) (.cons (v := [32]) hspace (by decide) ?_)
    refine .cons (v := [9]) (.blank rfl .nil) (by decide) ?_
    refine .cons (v := [32]) hspace (by decide) (.cons (v := [32]) hspace (by decide) ?_)
    exact .nil (.blank rfl .nil)
  refine ⟨es, _, hwrites, hspread, ?_⟩
  exact ((board_files_read_back.1 es _ _ hwrites hspread).2 _).2
    ⟨rfl, rfl, ⟨none, rfl, rfl⟩, rfl⟩

end BoardFile

end GridRobot
