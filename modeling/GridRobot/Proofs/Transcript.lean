import GridRobot.Log.Logger
import Mathlib.Data.List.DropRight
import Mathlib.Data.List.Infix
import Mathlib.Data.List.Induction

/-!
# Transcripts and the output beside them

A logger sends its records two ways, to its output and to its transcript, each of which has a level
of its own. Of all that a logger holds, the transcript depends on no more than the session that was
last given to it. This is what a `Keeper` has, and a keeper follows every operation on a book
without looking at the output (`Book.keeper_step`, `Book.keeper_run`). So the level and the format
of the output do not matter to it, and groups do not either (`Keeper.run_filter`).

What a keeper has in the end is said without running it (`Log.transcriptOf`): there is an entry for
each record since the transcript was last emptied, with a session that is found among the attributes
of the record or among those that were given before it.
-/

namespace GridRobot

namespace Log

/-! ## What the transcript should be -/

/-- The record that an operation sends. -/
def Op.record? : Op → Option Record
  | console message isError => some (consoleRecord message isError)
  | record r => some r
  | _ => none

/-- The attributes that an operation gives to the logger. -/
def Op.given : Op → List Attr
  | withAttrs attrs => attrs
  | _ => []

/-- Whether an operation does nothing but open a group. -/
def Op.opensGroup : Op → Bool
  | withGroup _ => true
  | _ => false

/-- The attributes that name a session. -/
def sessionAttrs (attrs : List Attr) : List Attr :=
  attrs.filter fun a => a.key = sessionKey

/-- The session that is given last by some operations, or else `session`. -/
def lastGiven (session : Text) (ops : List Op) : Text :=
  ((sessionAttrs (ops.flatMap Op.given)).getLast?.map fun a => a.value.bare).getD session

/-- The entry of a record in the transcript of a logger with a session. A mere detail has none. -/
def Record.entry? (r : Record) (session : Text) : Option (Entry Text) :=
  if infoLevel ≤ r.level then
    some
      { message := r.message
        isError := errorLevel ≤ r.level
        session := ((sessionAttrs r.attrs).head?.map fun a => a.value.bare).getD session }
  else none

/-- The entry that is due for an operation after others. -/
def Op.entryAfter (before : List Op) (op : Op) : Option (Entry Text) :=
  op.record?.bind fun r => r.entry? (lastGiven [] before)

/-- The operations since the transcript was last emptied, each with all that came before it. -/
def sinceClear (ops : List Op) : List (List Op × Op) :=
  (ops.inits.zip ops).rtakeWhile fun p => p.2 ≠ .clear

/-- The transcript that is due after some operations. -/
def transcriptOf (ops : List Op) : List (Entry Text) :=
  (sinceClear ops).filterMap fun p => p.2.entryAfter p.1

theorem zip_inits_concat {α : Type} (l : List α) (a : α) :
    (l ++ [a]).inits.zip (l ++ [a]) = l.inits.zip l ++ [(l, a)] := by
  induction l with
  | nil => rfl
  | cons b l ih =>
    rw [List.cons_append, List.inits_cons, List.zip_cons_cons, List.zip_map_left, ih,
      List.inits_cons, List.zip_cons_cons, List.zip_map_left, List.map_append]
    rfl

theorem transcriptOf_concat (ops : List Op) (op : Op) :
    transcriptOf (ops ++ [op]) =
      if op = .clear then [] else transcriptOf ops ++ (op.entryAfter ops).toList := by
  unfold transcriptOf sinceClear
  rw [zip_inits_concat, List.rtakeWhile_concat]
  by_cases hclear : op = .clear
  · simp [hclear]
  · cases hentry : op.entryAfter ops <;> simp [hclear, hentry]

theorem lastGiven_concat (session : Text) (ops : List Op) (op : Op) :
    lastGiven session (ops ++ [op]) = lastGiven (lastGiven session ops) [op] := by
  simp only [lastGiven, sessionAttrs, List.flatMap_append, List.filter_append,
    List.getLast?_append]
  cases (List.filter (fun a => decide (a.key = sessionKey)) ([op].flatMap Op.given)).getLast? <;>
    simp

/-! ## Keepers -/

/-- What becomes of a logger if all but its transcript is left out. -/
@[ext]
structure Keeper where
  session : Text
  entries : List (Entry Text)

namespace Keeper

/-- A keeper with an empty transcript. -/
def empty : Keeper :=
  ⟨[], []⟩

/-- The keeper after one operation. -/
def step (k : Keeper) (op : Op) : Keeper where
  session := lastGiven k.session [op]
  entries :=
    if op = .clear then []
    else k.entries ++ (op.record?.bind fun r => r.entry? k.session).toList

/-- The keeper after a sequence of operations. -/
def run (k : Keeper) (ops : List Op) : Keeper :=
  ops.foldl step k

theorem run_cons (k : Keeper) (op : Op) (ops : List Op) :
    k.run (op :: ops) = (k.step op).run ops :=
  rfl

theorem run_concat (k : Keeper) (ops : List Op) (op : Op) :
    k.run (ops ++ [op]) = (k.run ops).step op := by
  simp [run]

theorem session_run (ops : List Op) : (empty.run ops).session = lastGiven [] ops := by
  induction ops using List.reverseRecOn with
  | nil => rfl
  | append_singleton ops op ih =>
    rw [run_concat, lastGiven_concat, ← ih]
    rfl

/-- An operation adds the entry that is due after the operations before it, since at that point the
session of the keeper is the one that they gave last. -/
theorem entries_run (ops : List Op) : (empty.run ops).entries = transcriptOf ops := by
  induction ops using List.reverseRecOn with
  | nil => rfl
  | append_singleton ops op ih =>
    rw [run_concat, transcriptOf_concat, Op.entryAfter, ← ih, ← session_run]
    rfl

theorem step_of_opensGroup {op : Op} (hop : op.opensGroup = true) (k : Keeper) :
    k.step op = k := by
  cases op with
  | withGroup name => ext <;> simp [step, lastGiven, sessionAttrs, Op.given, Op.record?]
  | _ => simp [Op.opensGroup] at hop

theorem run_filter (k : Keeper) (ops : List Op) :
    k.run (ops.filter fun op => !op.opensGroup) = k.run ops := by
  induction ops generalizing k with
  | nil => rfl
  | cons op ops ih =>
    by_cases hop : op.opensGroup = true
    · rw [List.filter_cons_of_neg (by simp [hop]), ih, run_cons, step_of_opensGroup hop]
    · rw [List.filter_cons_of_pos (by simpa using hop), run_cons, run_cons, ih]

end Keeper

/-! ## Books -/

theorem foldl_session (attrs : List Attr) (session : Text) :
    attrs.foldl (fun s a => if a.key = sessionKey then a.value.bare else s) session =
      ((sessionAttrs attrs).getLast?.map fun a => a.value.bare).getD session := by
  induction attrs using List.reverseRecOn with
  | nil => rfl
  | append_singleton attrs a ih =>
    by_cases ha : a.key = sessionKey
    · simp [sessionAttrs, ha]
    · rw [List.foldl_append, ih]
      simp [sessionAttrs, ha]

theorem Logger.session_withAttrs (l : Logger) (attrs : List Attr) :
    (l.withAttrs attrs).session = lastGiven l.session [.withAttrs attrs] := by
  rw [lastGiven, List.flatMap_singleton]
  exact foldl_session attrs l.session

theorem Logger.entry?_eq (l : Logger) (r : Record) : l.entry? r = r.entry? l.session := by
  unfold Logger.entry? Record.entry? sessionAttrs
  rw [List.head?_filter]
  simp only [beq_eq_decide]

/-- A group touches neither the level of the output nor the session. -/
theorem Logger.withGroup_frame (l : Logger) (name : Text) :
    (l.withGroup name).threshold = l.threshold ∧ (l.withGroup name).session = l.session := by
  unfold Logger.withGroup
  split_ifs
  · exact ⟨rfl, rfl⟩
  · exact ⟨rfl, rfl⟩

namespace Book

/-- What a book has of its transcript. -/
def keeper (b : Book) : Keeper :=
  ⟨b.logger.session, b.transcript⟩

theorem keeper_write (b : Book) (r : Record) :
    (b.write r).keeper = b.keeper.step (.record r) := by
  ext1
  · rfl
  · simp [write, keeper, Keeper.step, Op.record?, Logger.entry?_eq]

/-- Whatever is done to a book, its keeper need not look at the output to follow. -/
theorem keeper_step (b : Book) (op : Op) : (b.step op).keeper = b.keeper.step op := by
  cases op with
  | console message isError => exact keeper_write b (consoleRecord message isError)
  | record r => exact keeper_write b r
  | withAttrs attrs =>
    ext1
    · exact b.logger.session_withAttrs attrs
    · simp [step, keeper, Keeper.step, Op.record?]
  | withGroup name =>
    rw [Keeper.step_of_opensGroup rfl]
    ext1
    · exact (b.logger.withGroup_frame name).2
    · rfl
  | clear => rfl

theorem run_cons (b : Book) (op : Op) (ops : List Op) :
    b.run (op :: ops) = (b.step op).run ops :=
  rfl

theorem keeper_run (b : Book) (ops : List Op) : (b.run ops).keeper = b.keeper.run ops := by
  induction ops generalizing b with
  | nil => rfl
  | cons op ops ih =>
    rw [run_cons, ih, keeper_step, Keeper.run_cons]

theorem transcript_run (level format : Text) (ops : List Op) :
    ((Book.new level format).run ops).transcript = (Keeper.empty.run ops).entries :=
  congrArg Keeper.entries ((Book.new level format).keeper_run ops)

/-! ## Lines -/

theorem threshold_step (b : Book) (op : Op) :
    (b.step op).logger.threshold = b.logger.threshold := by
  cases op with
  | withGroup name => exact (b.logger.withGroup_frame name).1
  | _ => rfl

theorem length_lines_step (b : Book) (op : Op) :
    (b.step op).lines.length =
      b.lines.length + op.record?.toList.countP fun r => b.logger.threshold ≤ r.level := by
  have hwrite (r : Record) : (b.write r).lines.length =
      b.lines.length + [r].countP fun r => b.logger.threshold ≤ r.level := by
    by_cases hlevel : b.logger.threshold ≤ r.level <;> simp [write, Logger.line?, hlevel]
  cases op with
  | console message isError => exact hwrite (consoleRecord message isError)
  | record r => exact hwrite r
  | _ => rfl

theorem length_lines_run (b : Book) (ops : List Op) :
    (b.run ops).lines.length =
      b.lines.length + (ops.filterMap Op.record?).countP fun r => b.logger.threshold ≤ r.level := by
  induction ops generalizing b with
  | nil => rfl
  | cons op ops ih =>
    rw [run_cons, ih, length_lines_step, threshold_step, Nat.add_assoc, ← List.countP_append]
    cases hrecord : op.record? <;> simp [hrecord]

end Book

end Log

open Log

/-- After every sequence of operations, the transcript of a new logger has exactly the entries that
are due: for each record of the ordinary level or above since it was last emptied, in order, whether
the record is an error, and as its session the first one among the attributes of the record, or else
the last one that was given before it, or else none. It is the same whatever the level and the
format of the output are, and however many groups are opened on the way. The output has a line for
each record that reaches its level. -/
theorem transcript_independent_of_output (level format : Text) (ops : List Op) :
    let b := (Book.new level format).run ops
    b.transcript = transcriptOf ops ∧
    (∀ (level' format' : Text) (ops' : List Op),
      ops'.filter (fun op => !op.opensGroup) = ops.filter (fun op => !op.opensGroup) →
      ((Book.new level' format').run ops').transcript = b.transcript) ∧
    b.lines.length =
      (ops.filterMap Op.record?).countP fun r => readLevel level ≤ r.level := by
  intro b
  have htranscript : b.transcript = (Keeper.empty.run ops).entries :=
    Book.transcript_run level format ops
  refine ⟨htranscript.trans (Keeper.entries_run ops), fun level' format' ops' hops => ?_, ?_⟩
  · rw [htranscript, Book.transcript_run, ← Keeper.run_filter, hops, Keeper.run_filter]
  · have hlines := (Book.new level format).length_lines_run ops
    rwa [Book.new, List.length_nil, Nat.zero_add] at hlines

/-- Entries since the transcript was emptied, one with the first of two sessions of its record and
one with the last of two that were given, while only errors are written; and the same entries
without the groups, while everything is written. -/
theorem transcript_of_errors_only :
    let session (name : String) : Attr := ⟨sessionKey, .text (Text.ofString name)⟩
    let late : Record := ⟨2, Text.ofString "late", [session "b", session "c"]⟩
    let ops : List Op := [.withGroup (Text.ofString "g"), .console (Text.ofString "early") true,
      .withAttrs [session "d", session "e"], .clear, .record late,
      .record ⟨debugLevel, Text.ofString "detail", []⟩, .withGroup (Text.ofString "h"),
      .console (Text.ofString "last") true]
    let b := (Book.new (Text.ofString "ERROR") (Text.ofString "json")).run ops
    let c := (Book.new (Text.ofString "debug") (Text.ofString "text")).run
      (ops.filter fun op => !op.opensGroup)
    c.transcript = b.transcript ∧ b.lines.length = 2 ∧
      b.transcript = [⟨Text.ofString "late", false, Text.ofString "b"⟩,
        ⟨Text.ofString "last", true, Text.ofString "e"⟩] := by
  intro session late ops b c
  obtain ⟨hentries, hsame, hlines⟩ :=
    transcript_independent_of_output (Text.ofString "ERROR") (Text.ofString "json") ops
  exact ⟨hsame _ _ _ (by decide +kernel), hlines.trans (by decide +kernel),
    hentries.trans (by decide +kernel)⟩

end GridRobot
