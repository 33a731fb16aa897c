import GridRobot.Proofs.WhiteSpace
import GridRobot.Script

/-!
# Loading scripts

A script is loaded segment by segment, where a segment is what stands between two newlines
(`Script.Segments`). So a script can be cut at each of its newlines: its parts are loaded one after
the other (`Script.load?_append_cons`), and a part without a newline gives one line at most
(`Script.load?_of_notMem`).

A script need not be at hand as a whole. A reader gets it in chunks of whatever sizes and keeps a
buffer that holds no more than the longest line with its newline (`Script.scan`). When the buffer is
full and no line ends in it, the script cannot be read. This gives the same lines
(`Script.loadBy_eq_load?`), since all that the reader keeps between two chunks is the beginning of
the next segment.
-/

namespace GridRobot

namespace Text

theorem splitWhere_cons (p : UInt8 → Bool) (b : UInt8) (t : Text) : splitWhere p (b :: t) =
    if p b then [] :: splitWhere p t else (splitWhere p t).modifyHead (b :: ·) := by
  unfold splitWhere
  rw [List.foldr_cons]
  dsimp only
  split_ifs <;> rfl

theorem splitWhere_eq_splitOnP (p : UInt8 → Bool) (t : Text) : splitWhere p t = t.splitOnP p := by
  induction t with
  | nil => rfl
  | cons b t ih => rw [splitWhere_cons, List.splitOnP_cons_eq_if_modifyHead, ih]

theorem notMem_of_mem_splitOn {b : UInt8} {s t : Text} (hs : s ∈ t.splitOn b) : b ∉ s := by
  induction t generalizing s with
  | nil =>
    rw [List.splitOn_nil, List.mem_singleton] at hs
    rw [hs]
    exact List.not_mem_nil
  | cons a t ih =>
    rw [List.splitOn_cons_eq_if_modifyHead] at hs
    split_ifs at hs with ha
    · rcases List.mem_cons.1 hs with rfl | hs
      · exact List.not_mem_nil
      · exact ih hs
    · obtain ⟨first, others, hsplit⟩ := List.exists_cons_of_ne_nil (List.splitOn_ne_nil b t)
      rw [hsplit] at hs ih
      rw [List.modifyHead_cons, List.mem_cons] at hs
      rcases hs with rfl | hs
      · rw [List.mem_cons, not_or]
        exact ⟨fun hba => ha (by rw [hba]; exact beq_self_eq_true a), ih List.mem_cons_self⟩
      · exact ih (List.mem_cons_of_mem _ hs)

theorem notMem_trim {b : UInt8} {t : Text} (hb : b ∉ t) : b ∉ t.trim := by
  have hinside : t.trim <:+: t :=
    (trimRight_isPrefix t.trimLeft).isInfix.trans (dropCodes_suffix whiteSpace t).isInfix
  exact fun hmem => hb (hinside.subset hmem)

theorem length_trim_le (t : Text) : t.trim.length ≤ t.length :=
  (trimRight_isPrefix t.trimLeft).length_le.trans (dropCodes_suffix whiteSpace t).length_le

end Text

namespace Script

variable {line s t : Text} {lines : List Text}

/-! ## Segments -/

/-- The segments of a text: pieces without a newline that make up the text when they are put
together with newlines between them. -/
structure Segments (t : Text) (segments : List Text) : Prop where
  ne_nil : segments ≠ []
  newline_notMem : ∀ s ∈ segments, 10 ∉ s
  join_eq : Text.join [10] segments = t

theorem segments_iff {segments : List Text} : Segments t segments ↔ segments = t.splitOn 10 := by
  constructor
  · rintro ⟨hne, hnot, rfl⟩
    exact (List.splitOn_intercalate 10 hnot hne).symm
  · rintro rfl
    exact ⟨List.splitOn_ne_nil 10 t, fun s hs => Text.notMem_of_mem_splitOn hs,
      List.intercalate_splitOn 10⟩

/-- What is kept of segments: the trimmed ones that are not empty. -/
def kept (segments : List Text) : List Text :=
  (segments.map Text.trim).filter fun s => !s.isEmpty

theorem kept_append (segments segments' : List Text) :
    kept (segments ++ segments') = kept segments ++ kept segments' := by
  simp only [kept, List.map_append, List.filter_append]

theorem load?_eq (t : Text) : load? t =
    if (t.splitOn 10).any fun s => maxLine ≤ s.length then none
    else some (kept (t.splitOn 10)) := by
  unfold load?
  rw [Text.splitWhere_eq_splitOnP]
  rfl

theorem load?_eq_none_iff : load? t = none ↔ ∃ s ∈ t.splitOn 10, maxLine ≤ s.length := by
  simp [load?_eq]

theorem load?_eq_some_iff : load? t = some lines ↔
    (∀ s ∈ t.splitOn 10, s.length < maxLine) ∧ kept (t.splitOn 10) = lines := by
  simp [load?_eq]

theorem load?_of_notMem (ht : 10 ∉ t) :
    load? t = if maxLine ≤ t.length then none else some (kept [t]) := by
  simp [load?_eq, List.splitOn_eq_singleton ht]

/-- A script can be cut at each of its newlines. -/
theorem load?_append_cons (s t : Text) :
    load? (s ++ 10 :: t) = (load? s).bind fun lines => (load? t).map (lines ++ ·) := by
  rw [load?_eq, load?_eq s, load?_eq t, List.splitOn_append_cons_self, List.any_append, kept_append]
  cases (s.splitOn 10).any fun s => maxLine ≤ s.length
  · cases (t.splitOn 10).any fun s => maxLine ≤ s.length <;> rfl
  · rfl

/-! ## Lines of a script -/

theorem mem_kept {segments : List Text} :
    line ∈ kept segments ↔ line ≠ [] ∧ ∃ s ∈ segments, s.trim = line := by
  simp [kept, and_comm]

/-- What is kept of lines that are trimmed and not empty are these lines. -/
theorem kept_eq_self (hlines : ∀ line ∈ lines, line.trim = line ∧ line ≠ []) :
    kept lines = lines := by
  have hmap : lines.map Text.trim = lines := by
    conv_rhs => rw [← List.map_id lines]
    exact List.map_congr_left fun line hline => (hlines line hline).1
  rw [kept, hmap, List.filter_eq_self]
  intro line hline
  simp [(hlines line hline).2]

theorem line_of_load? (h : load? t = some lines) (hline : line ∈ lines) :
    line.trim = line ∧ 10 ∉ line ∧ line.length < maxLine ∧ line ≠ [] := by
  obtain ⟨hshort, rfl⟩ := load?_eq_some_iff.1 h
  obtain ⟨hne, s, hs, rfl⟩ := mem_kept.1 hline
  exact ⟨s.trim_trim, Text.notMem_trim (Text.notMem_of_mem_splitOn hs),
    s.length_trim_le.trans_lt (hshort s hs), hne⟩

/-- The lines of a script, written one to a line, are a script with these lines. -/
theorem load?_join (h : load? t = some lines) : load? (Text.join [10] lines) = some lines := by
  by_cases hlines : lines = []
  · rw [hlines]
    decide +kernel
  · have hsplit : (Text.join [10] lines).splitOn 10 = lines :=
      List.splitOn_intercalate 10 (fun line hline => (line_of_load? h hline).2.1) hlines
    rw [load?_eq_some_iff, hsplit]
    refine ⟨fun line hline => (line_of_load? h hline).2.2.1, kept_eq_self fun line hline => ?_⟩
    have hof := line_of_load? h hline
    exact ⟨hof.1, hof.2.2.2⟩

/-! ## Reading in chunks -/

/-- A line without the carriage return at its end. -/
def dropReturn (line : Text) : Text :=
  if line.getLast? = some 13 then line.dropLast else line

/-- Reads lines from a buffer and from what comes after it. Each time that no line ends in the
buffer another chunk is read into it, of the size that is wanted as far as there is room, but at
least one byte. Gives the lines, and whether the end was reached: it is not if a line fills the
buffer. -/
def scan (size : Nat → Nat) (chunks : Nat) (buffer rest : Text) : List Text × Bool :=
  match _ : buffer.dropWhile (· != 10) with
  | _ :: buffer' =>
    let (lines, ended) := scan size chunks buffer' rest
    (dropReturn (buffer.takeWhile (· != 10)) :: lines, ended)
  | [] =>
    if maxLine ≤ buffer.length then ([], false)
    else if rest.isEmpty then (if buffer.isEmpty then [] else [dropReturn buffer], true)
    else
      let n := max 1 (min (size chunks) (maxLine - buffer.length))
      scan size (chunks + 1) (buffer ++ rest.take n) (rest.drop n)
termination_by buffer.length + 2 * rest.length
decreasing_by
  · have hle := (List.dropWhile_suffix (l := buffer) (· != 10)).length_le
    rw [‹buffer.dropWhile _ = _›, List.length_cons] at hle
    omega
  · have hpos : 0 < rest.length :=
      List.length_pos_of_ne_nil (by simpa using ‹¬ rest.isEmpty = true›)
    rw [List.length_append, List.length_take, List.length_drop]
    omega

/-- What was loaded, if the end was reached. -/
def loaded : List Text × Bool → Option (List Text)
  | (lines, true) => some (kept lines)
  | (_, false) => none

/-- The lines of a script that is read in chunks. -/
def loadBy (size : Nat → Nat) (t : Text) : Option (List Text) :=
  loaded (scan size 0 [] t)

theorem trim_dropReturn (line : Text) : (dropReturn line).trim = line.trim := by
  unfold dropReturn
  split_ifs with hlast
  · obtain ⟨s, rfl⟩ := List.getLast?_eq_some_iff.1 hlast
    have hreturn : Text.ofChar '\r' = [13] := by decide
    rw [List.dropLast_concat, ← hreturn, Text.trim_concat_ofChar (by decide)]
  · rfl

theorem kept_dropReturn (line : Text) : kept [dropReturn line] = kept [line] := by
  simp only [kept, List.map_cons, trim_dropReturn]

theorem loaded_cons (line : Text) (lines : List Text) (ended : Bool) :
    loaded (line :: lines, ended) = (loaded (lines, ended)).map (kept [line] ++ ·) := by
  cases ended with
  | false => rfl
  | true => exact congrArg some (kept_append [line] lines)

theorem newline_notMem_of_dropWhile {buffer : Text} (h : buffer.dropWhile (· != 10) = []) :
    10 ∉ buffer := by
  rw [List.dropWhile_eq_nil_iff] at h
  intro hmem
  simpa using h 10 hmem

theorem eq_append_of_dropWhile {buffer more : Text} {c : UInt8}
    (h : buffer.dropWhile (· != 10) = c :: more) :
    buffer = buffer.takeWhile (· != 10) ++ 10 :: more ∧ 10 ∉ buffer.takeWhile (· != 10) := by
  have hc := List.head?_dropWhile_not (· != 10) buffer
  rw [h, List.head?_cons] at hc
  obtain rfl : c = 10 := by simpa using hc
  refine ⟨?_, fun hmem => ?_⟩
  · rw [← h, List.takeWhile_append_dropWhile]
  · simpa using List.mem_takeWhile_imp hmem

/-- A text that goes on after a full buffer cannot be loaded: its first segment is too long. -/
theorem load?_of_full (hnot : 10 ∉ s) (hfull : maxLine ≤ s.length) (t : Text) :
    load? (s ++ t) = none := by
  by_cases ht : 10 ∈ t
  · obtain ⟨u, v, rfl, hu⟩ := List.eq_append_cons_of_mem ht
    have hsu : 10 ∉ s ++ u := by simp [hnot, hu]
    rw [← List.append_assoc, load?_append_cons, load?_of_notMem hsu, if_pos]
    · rfl
    · rw [List.length_append]
      omega
  · rw [load?_of_notMem (by simp [hnot, ht]), if_pos]
    rw [List.length_append]
    omega

/-- What a reader makes of a script from the middle on is what the rest of the script gives when it
is loaded at once, as long as the buffer has not grown beyond its size. -/
theorem loaded_scan {size : Nat → Nat} {chunks : Nat} {buffer rest : Text}
    (hbuffer : buffer.length ≤ maxLine) :
    loaded (scan size chunks buffer rest) = load? (buffer ++ rest) := by
  fun_induction scan size chunks buffer rest with
  | case1 chunks buffer rest c more hdrop lines ended hscan ih =>
    obtain ⟨hcut, hnot⟩ := eq_append_of_dropWhile hdrop
    generalize buffer.takeWhile (· != 10) = line at hcut hnot ⊢
    rw [hcut, List.length_append, List.length_cons] at hbuffer
    rw [hscan] at ih
    rw [loaded_cons, kept_dropReturn, ih (by omega), hcut, List.append_assoc, List.cons_append,
      load?_append_cons, load?_of_notMem hnot, if_neg (by omega)]
    rfl
  | case2 chunks buffer rest hdrop hfull =>
    exact (load?_of_full (newline_notMem_of_dropWhile hdrop) hfull rest).symm
  | case3 chunks buffer rest hdrop hfull hrest =>
    rw [List.isEmpty_iff.1 hrest, List.append_nil,
      load?_of_notMem (newline_notMem_of_dropWhile hdrop), if_neg hfull, loaded]
    split_ifs with hempty
    · rw [List.isEmpty_iff.1 hempty]
      decide +kernel
    · rw [kept_dropReturn]
  | case4 chunks buffer rest hdrop hfull hrest n ih =>
    have hroom : (buffer ++ rest.take n).length ≤ maxLine := by
      rw [List.length_append, List.length_take]
      omega
    rw [ih hroom, List.append_assoc, List.take_append_drop]

/-- However a script is cut into chunks, its lines are the same. -/
theorem loadBy_eq_load? (size : Nat → Nat) (t : Text) : loadBy size t = load? t :=
  loaded_scan (Nat.zero_le maxLine)

end Script

/-- A text has one list of segments. Loading it fails exactly if one of them has 65536 bytes or
more, and else it gives the trimmed segments that are not empty, in order. A reader that gets the
text in chunks of any sizes, into a buffer of that many bytes, finds the same. Each line that is
loaded is trimmed, has no newline and has a word. The lines make up a script with the same lines,
and where a script that can be loaded is cut at a newline, its lines are those of its first part
followed by those of the second. -/
theorem script_loads_by_segments (t : Text) :
    (∃! segments, Script.Segments t segments) ∧
    (∀ segments, Script.Segments t segments →
      (Script.load? t = none ↔ ∃ s ∈ segments, 65536 ≤ s.length) ∧
      ((∀ s ∈ segments, s.length < 65536) → Script.load? t =
        some ((segments.map Text.trim).filter fun s => !s.isEmpty))) ∧
    (∀ size, Script.loadBy size t = Script.load? t) ∧
    ∀ lines, Script.load? t = some lines →
      (∀ line ∈ lines, line.trim = line ∧ 10 ∉ line ∧ line.words ≠ []) ∧
      Script.load? (Text.join [10] lines) = some lines ∧
      ∀ a b : Text, t = a ++ 10 :: b → ∃ first second,
        Script.load? a = some first ∧ Script.load? b = some second ∧ lines = first ++ second := by
  refine ⟨⟨_, Script.segments_iff.2 rfl, fun _ => Script.segments_iff.1⟩,
    fun segments hsegments => ?_, fun size => Script.loadBy_eq_load? size t,
    fun lines h => ⟨fun line hline => ?_, Script.load?_join h, ?_⟩⟩
  · rw [Script.segments_iff] at hsegments
    rw [hsegments]
    exact ⟨Script.load?_eq_none_iff, fun hshort => Script.load?_eq_some_iff.2 ⟨hshort, rfl⟩⟩
  · obtain ⟨htrim, hnewline, -, hne⟩ := Script.line_of_load? h hline
    refine ⟨htrim, hnewline, fun hwords => hne ?_⟩
    rw [← htrim, Text.trim_eq_nil_of_words hwords]
  · rintro a b rfl
    rw [Script.load?_append_cons, Option.bind_eq_some_iff] at h
    obtain ⟨first, hfirst, h⟩ := h
    obtain ⟨second, hsecond, rfl⟩ := Option.map_eq_some_iff.1 h
    exact ⟨first, second, hfirst, hsecond, rfl⟩

/-- The ideographic space is trimmed, a line with nothing else is dropped, and the last line need
not end with a newline. -/
example : Script.load? (Text.ofString "\u3000VAR X 1\r\n\u00a0\t\n\nMOVER\u00a0BAIXO X ") =
    some [Text.ofString "VAR X 1", Text.ofString "MOVER\u00a0BAIXO X"] := by decide +kernel

end GridRobot
