import GridRobot.Proofs.Runs
import GridRobot.Proofs.Wins

/-!
# Whose entries these are

A transcript is told in chapters, one for each session (`Session.Chapters`): all entries of a
chapter carry the number of its session, and every chapter but the first begins with the message of
the reset that has led to it. One turn adds entries of the session that is current then, or it is a
reset that succeeds and opens a chapter (`Session.Turn.logs`). So the numbers never decrease, and
the message of a reset is the first entry with its number (`Session.Chapters.pairwise_le`,
`Session.Chapters.exists_first`).

The same holds inside of a line, where only wins reset the session: the old chapter ends with the
win, whatever the rest of the line has still to say (`Game.narrates_interpret`).
-/

namespace GridRobot

namespace Session

variable {r : Prop} {s t u : Session} {farewell : Nat → List (Log.Entry Nat)} {m n : Nat}
  {entries : List (Log.Entry Nat)}

/-! ## Chapters -/

/-- Entries that the sessions from one number to another have logged, one session after the other.
Before a reset the old session has said `farewell`, after it the new one tells of the reset. -/
inductive Chapters (farewell : Nat → List (Log.Entry Nat)) :
    Nat → List (Log.Entry Nat) → Nat → Prop where
  | stay {n : Nat} {entries : List (Log.Entry Nat)} (hsession : ∀ e ∈ entries, e.session = n) :
      Chapters farewell n entries n
  | reset {n m : Nat} {before after : List (Log.Entry Nat)}
      (hsession : ∀ e ∈ before ++ farewell n, e.session = n)
      (hafter : Chapters farewell (n + 1) after m) :
      Chapters farewell n (before ++ farewell n ++ ⟨resetMessage, false, n + 1⟩ :: after) m

theorem Chapters.append {k : Nat} {more : List (Log.Entry Nat)}
    (h : Chapters farewell n entries m) (hmore : Chapters farewell m more k) :
    Chapters farewell n (entries ++ more) k := by
  induction h with
  | @stay n entries hsession =>
    cases hmore with
    | stay hsession' =>
      refine .stay fun e he => ?_
      rcases List.mem_append.1 he with he | he
      · exact hsession e he
      · exact hsession' e he
    | @reset _ _ before after hsession' hafter =>
      rw [← List.append_assoc, ← List.append_assoc]
      refine .reset (fun e he => ?_) hafter
      rw [List.append_assoc] at he
      rcases List.mem_append.1 he with he | he
      · exact hsession e he
      · exact hsession' e he
  | reset hsession _ ih =>
    rw [List.append_assoc, List.cons_append]
    exact .reset hsession (ih hmore)

theorem Chapters.le (h : Chapters farewell n entries m) : n ≤ m := by
  induction h with
  | stay => exact le_rfl
  | reset _ _ ih => exact (Nat.le_succ _).trans ih

theorem Chapters.session_mem (h : Chapters farewell n entries m) :
    ∀ e ∈ entries, n ≤ e.session ∧ e.session ≤ m := by
  induction h with
  | stay hsession => exact fun e he => ⟨(hsession e he).ge, (hsession e he).le⟩
  | @reset n m before after hsession hafter ih =>
    have hle := hafter.le
    intro e he
    rcases List.mem_append.1 he with he | he
    · have := hsession e he
      omega
    · rcases List.mem_cons.1 he with rfl | he
      · exact ⟨Nat.le_succ n, hle⟩
      · have := ih e he
        omega

/-- The numbers of the sessions never decrease. -/
theorem Chapters.pairwise_le (h : Chapters farewell n entries m) :
    entries.Pairwise fun e e' => e.session ≤ e'.session := by
  have hequal {n : Nat} {entries : List (Log.Entry Nat)} (hsession : ∀ e ∈ entries, e.session = n) :
      entries.Pairwise fun e e' => e.session ≤ e'.session :=
    List.pairwise_of_forall_mem_list fun e he e' he' =>
      ((hsession e he).trans (hsession e' he').symm).le
  induction h with
  | stay hsession => exact hequal hsession
  | @reset n m before after hsession hafter ih =>
    have hafter' := hafter.session_mem
    refine List.pairwise_append.2 ⟨hequal hsession, ?_, fun e he e' he' => ?_⟩
    · exact List.pairwise_cons.2 ⟨fun e he => (hafter' e he).1, ih⟩
    · rw [hsession e he]
      rcases List.mem_cons.1 he' with rfl | he'
      · exact Nat.le_succ n
      · exact (Nat.le_succ n).trans (hafter' e' he').1

/-- The first entry of every session but the first one tells of a reset. -/
theorem Chapters.exists_first (h : Chapters farewell n entries m) {k : Nat} (hn : n < k)
    (hm : k ≤ m) :
    ∃ before after, entries = before ++ ⟨resetMessage, false, k⟩ :: after ∧
      (∀ e ∈ before, e.session < k) ∧ ∀ e ∈ after, k ≤ e.session := by
  induction h with
  | stay => omega
  | @reset n m before after hsession hafter ih =>
    -- the session sought is begun by this reset, or by a later one
    rcases (Nat.succ_le_of_lt hn).eq_or_lt with rfl | hlt
    · refine ⟨before ++ farewell n, after, rfl, fun e he => ?_, fun e he => ?_⟩
      · rw [hsession e he]
        exact Nat.lt_succ_self n
      · exact (hafter.session_mem e he).1
    · obtain ⟨before', after', rfl, hbefore, hlater⟩ := ih hlt hm
      refine ⟨before ++ farewell n ++ ⟨resetMessage, false, n + 1⟩ :: before', after', by simp,
        fun e he => ?_, hlater⟩
      rcases List.mem_append.1 he with he | he
      · rw [hsession e he]
        exact hn
      · rcases List.mem_cons.1 he with rfl | he
        · exact hlt
        · exact hbefore e he

/-! ## Turns -/

/-- What was logged between two states is told in chapters. -/
def Narrates (farewell : Nat → List (Log.Entry Nat)) (s t : Session) : Prop :=
  ∃ entries, t.transcript = s.transcript ++ entries ∧ Chapters farewell s.number entries t.number

theorem narrates_of_eq (htranscript : t.transcript = s.transcript) (hnumber : t.number = s.number) :
    Narrates farewell s t :=
  ⟨[], htranscript.trans (List.append_nil _).symm, hnumber ▸ .stay (by simp)⟩

theorem Narrates.trans (hst : Narrates farewell s t) (htu : Narrates farewell t u) :
    Narrates farewell s u := by
  obtain ⟨entries, htranscript, hchapters⟩ := hst
  obtain ⟨more, htranscript', hchapters'⟩ := htu
  refine ⟨entries ++ more, ?_, hchapters.append hchapters'⟩
  rw [htranscript', htranscript, List.append_assoc]

theorem narrates_log (s : Session) (message : Text) (isError : Bool) :
    Narrates farewell s (s.log message isError) :=
  ⟨_, s.transcript_log message isError, .stay (by simp)⟩

theorem transcript_anew (s : Session) (b : Board) :
    (s.anew b).transcript = s.transcript ++ [⟨resetMessage, false, s.number + 1⟩] :=
  transcript_log _ resetMessage false

/-- The second state is one later, and what was logged since carries the number of the session that
was current then. The number changes by a reset that succeeds, and this logs nothing but its own
message, as the new session. -/
def Logs (s t : Session) : Prop :=
  (t.number = s.number ∧
      ∃ entries, t.transcript = s.transcript ++ entries ∧ ∀ e ∈ entries, e.session = s.number) ∨
    (s.reset = (.ok (), t) ∧ t.number = s.number + 1 ∧
      t.transcript = s.transcript ++ [⟨resetMessage, false, t.number⟩])

theorem Turn.logs (h : Turn r s t) : s.Logs t := by
  cases h with
  | log message isError =>
    exact .inl ⟨rfl, _, s.transcript_log message isError, by simp⟩
  | debug message attrs =>
    exact .inl ⟨rfl, [], (s.transcript_debug message attrs).trans (List.append_nil _).symm, by simp⟩
  | assign name value => exact .inl ⟨rfl, [], (List.append_nil _).symm, by simp⟩
  | move h => exact .inl ⟨rfl, [], (List.append_nil _).symm, by simp⟩
  | win ht hw => exact .inl ⟨rfl, _, s.transcript_win, by simp⟩
  | reset hr =>
    obtain ⟨b, -, h⟩ | ⟨e, -, h⟩ := reset_cases s <;> rw [h]
    · exact .inr ⟨h, rfl, s.transcript_anew b⟩
    · exact .inl ⟨rfl, [], (List.append_nil _).symm, by simp⟩

theorem Logs.narrates (h : s.Logs t) : Narrates (fun _ => []) s t := by
  rcases h with ⟨hnumber, entries, htranscript, hsession⟩ | ⟨-, hnumber, htranscript⟩
  · refine ⟨entries, htranscript, ?_⟩
    rw [hnumber]
    exact .stay hsession
  · refine ⟨_, htranscript, ?_⟩
    rw [hnumber]
    exact @Chapters.reset _ _ _ [] [] (by simp) (.stay (by simp))

theorem Turns.narrates (h : Turns r s t) : Narrates (fun _ => []) s t :=
  Turns.keep (P := Narrates (fun _ => []) s) (fun _ _ hturn hs => hs.trans hturn.logs.narrates) h
    (narrates_of_eq rfl rfl)

/-! ## Lines -/

/-- What a session says at its end, when it is reset because of a win. -/
def winEntries (n : Nat) : List (Log.Entry Nat) :=
  [⟨winMessage, false, n⟩]

theorem narrates_win (s : Session) : Narrates farewell s s.win :=
  ⟨_, s.transcript_win, .stay (by simp)⟩

/-- A win is the last that a session tells, if it is reset because of it. -/
theorem narrates_checkWin (s : Session) : Narrates winEntries s s.checkWin.2 := by
  obtain ⟨-, h⟩ | ⟨-, ⟨-, h⟩ | ⟨-, h⟩ | ⟨e, -, herror, h⟩⟩ := s.checkWin_cases <;> rw [h]
  · exact narrates_of_eq rfl rfl
  · exact s.narrates_win
  · obtain ⟨b, -, hreset⟩ | ⟨e, -, hreset⟩ := reset_cases s.win
    · rw [hreset]
      refine ⟨[⟨winMessage, false, s.number⟩, ⟨resetMessage, false, s.number + 1⟩], ?_, ?_⟩
      · rw [transcript_anew, transcript_win, List.append_assoc]
        rfl
      · exact @Chapters.reset _ _ _ [] [] (by simp [winEntries]) (.stay (by simp))
    · rw [hreset]
      exact s.narrates_win.trans (narrates_of_eq rfl rfl)
  · obtain ⟨b, -, hreset⟩ | ⟨e, -, hreset⟩ := reset_cases s.win
    · rw [hreset] at herror
      cases herror
    · rw [hreset]
      exact s.narrates_win.trans
        ((narrates_of_eq rfl rfl : Narrates _ _ _).trans (narrates_log _ _ _))

end Session

namespace Game

open Session (Narrates winEntries)

variable {g h : Game}

theorem onward_narrates : Onward fun g h => Narrates winEntries g.session h.session where
  refl _ := Session.narrates_of_eq rfl rfl
  trans := Narrates.trans
  log g _ isError _ := g.session.narrates_log _ isError
  assign _ _ _ := Session.narrates_of_eq rfl rfl
  move _ := Session.narrates_of_eq rfl rfl
  checkWin g := g.session.narrates_checkWin
  start g := by
    unfold start
    split
    · exact Session.narrates_of_eq rfl rfl
    · split_ifs
      · exact Session.narrates_of_eq (g.session.transcript_debug _ _) rfl
      · exact g.session.narrates_log startMessage false

/-- A line is told in chapters, and a failure of it belongs to the last of them. -/
theorem narrates_interpret (g : Game) (line : Text) :
    ∃ entries, (g.interpret line).2.session.transcript = g.session.transcript ++ entries ∧
      Session.Chapters winEntries g.session.number entries (g.interpret line).2.session.number ∧
      ∀ e, (g.interpret line).1 = .error e →
        entries.getLast? = some ⟨e.message, true, (g.interpret line).2.session.number⟩ := by
  obtain ⟨h, hpass, ⟨k, hend, hok⟩ | ⟨e, hfail⟩⟩ := g.interpret_cases line
  · obtain ⟨entries, htranscript, hchapters⟩ := onward_narrates.interpret g line
    refine ⟨entries, htranscript, hchapters, fun e he => ?_⟩
    rw [hok] at he
    cases he
  · obtain ⟨entries, htranscript, hchapters⟩ := onward_narrates.passes hpass
    rw [hfail]
    refine ⟨entries ++ [⟨e.message, true, h.session.number⟩], ?_,
      hchapters.append (.stay (by simp)), fun e' he' => ?_⟩
    · rw [← List.append_assoc, ← htranscript]
      exact h.session.transcript_log e.message true
    · cases he'
      exact List.getLast?_concat

end Game

/-! ## Names of sessions -/

/-- An entry with its session under a name. -/
def Log.Entry.named (name : Nat → Text) (e : Log.Entry Nat) : Log.Entry Text :=
  ⟨e.message, e.isError, name e.session⟩

/-- The logger for what a session of the given name reports. -/
def Log.Logger.forSession (logger : Log.Logger) (name : Text) : Log.Logger :=
  logger.withAttrs [⟨Log.sessionKey, .text name⟩]

/-- The entry that a note leaves in the transcript that a logger keeps, where each session has a
logger in its name. -/
def Note.kept (logger : Log.Logger) (name : Nat → Text) : Note → Option (Log.Entry Text)
  | console session message isError =>
    Log.Logger.entry? (logger.forSession (name session)) (Log.consoleRecord message isError)
  | debug message attrs => logger.entry? ⟨Log.debugLevel, message, attrs⟩

theorem Note.kept_eq (logger : Log.Logger) (name : Nat → Text) (n : Note) :
    n.kept logger name = n.entry?.map (Log.Entry.named name) := by
  cases n with
  | console session message isError => cases isError <;> rfl
  | debug message attrs => rfl

/-- The transcript that a logger keeps, with the sessions under their names. -/
def Session.kept (logger : Log.Logger) (name : Nat → Text) (s : Session) : List (Log.Entry Text) :=
  s.journal.filterMap (Note.kept logger name)

theorem Session.kept_eq (logger : Log.Logger) (name : Nat → Text) (s : Session) :
    s.kept logger name = s.transcript.map (Log.Entry.named name) := by
  unfold kept transcript
  rw [List.map_filterMap, funext (Note.kept_eq logger name)]

/-- Every entry carries the name of the session that was current when it was logged. The session
goes through states, from each to the next by one turn, and what a turn adds belongs to the session
that is current then; the first entry of each new session is the message of its reset. Along the
transcript the sessions are in the order of their creation. This holds inside of lines too: a win
that resets the session is told by the old one, and everything after it by the new one, up to the
report of a failure. -/
theorem entries_carry_current_session {setup : Setup} {onWin : WinPolicy} {s : Session}
    (hstart : Session.start setup onWin = .ok s) {name : Nat → Text}
    (hname : Function.Injective name) (logger : Log.Logger) (scheduler : Option Scheduler)
    (requests : List Request) :
    let g := (Game.mk s scheduler []).serveAll requests
    g.session.kept logger name = g.session.transcript.map (Log.Entry.named name) ∧
      (g.session.transcript.Pairwise fun e e' => e.session ≤ e'.session) ∧
      (∀ e ∈ g.session.transcript, 1 ≤ e.session ∧ e.session ≤ g.session.number) ∧
      (∃ states : List Session, (s :: states).IsChain (Session.Turn True) ∧
        (s :: states).getLast (List.cons_ne_nil s states) = g.session ∧
        (s :: states).IsChain Session.Logs) ∧
      (∀ n, 1 < n → n ≤ g.session.number → ∃ before after,
        g.session.kept logger name = before ++ ⟨Session.resetMessage, false, name n⟩ :: after ∧
        ∀ e ∈ before, e.session ≠ name n) ∧
      ∀ line, ∃ entries,
        (g.interpret line).2.session.transcript = g.session.transcript ++ entries ∧
        Session.Chapters Session.winEntries g.session.number entries
          (g.interpret line).2.session.number ∧
        ∀ e, (g.interpret line).1 = .error e →
          entries.getLast? = some ⟨e.message, true, (g.interpret line).2.session.number⟩ := by
  intro g
  have hfresh := Session.fresh_of_start hstart
  have hturns : Session.Turns True s g.session := (Game.mk s scheduler []).turns_serveAll requests
  have hchapters : Session.Chapters (fun _ => []) 1 g.session.transcript g.session.number := by
    obtain ⟨entries, htranscript, hchapters⟩ := hturns.narrates
    have hempty : s.transcript = [] := by rw [Session.transcript, hfresh.journal_eq]; rfl
    rw [hempty, List.nil_append] at htranscript
    rwa [htranscript, ← hfresh.number_eq]
  obtain ⟨states, hchain, hlast⟩ := List.exists_isChain_cons_of_relationReflTransGen hturns
  refine ⟨g.session.kept_eq logger name, hchapters.pairwise_le, hchapters.session_mem,
    ⟨states, hchain, hlast, hchain.imp fun _ _ => Session.Turn.logs⟩, fun n hn hle => ?_,
    g.narrates_interpret⟩
  obtain ⟨before, after, htranscript, hbefore, -⟩ := hchapters.exists_first hn hle
  refine ⟨before.map (Log.Entry.named name), after.map (Log.Entry.named name), ?_, ?_⟩
  · rw [Session.kept_eq, htranscript, List.map_append, List.map_cons]
    rfl
  · rw [List.forall_mem_map]
    intro e he hsame
    exact (hbefore e he).ne (hname hsame)

/-- Each time a condition finds the robot on the target the session is reset, and then the action of
the line fails. -/
theorem failure_after_reset_inside_line :
    let line := Text.ofString "SE ROBO META VOAR"
    ∃ s, Session.start (.fixed ⟨3, ⟨0, 0⟩, ⟨0, 0⟩, []⟩) .reset = .ok s ∧
      let g := (Game.mk s none []).serveAll [.operate (.interpret line)]
      (∃ before after, g.session.kept (.new [] []) (List.replicate · 120) =
          before ++ ⟨Session.resetMessage, false, [120, 120]⟩ :: after ∧
        ∀ e ∈ before, e.session ≠ [120, 120]) ∧
      ∃ entries, Session.Chapters Session.winEntries 2 entries 3 ∧
        entries.getLast? = some ⟨CommandError.unknownCommand.message, true, 3⟩ := by
  intro line
  have hstart : Session.start (.fixed ⟨3, ⟨0, 0⟩, ⟨0, 0⟩, []⟩) .reset = .ok _ := rfl
  have hname : Function.Injective fun n => List.replicate n (120 : UInt8) := fun m n h => by
    simpa using congrArg List.length h
  refine ⟨_, hstart, ?_⟩
  intro g
  obtain ⟨-, -, -, -, hfirst, hline⟩ := entries_carry_current_session hstart hname (.new [] []) none
    [.operate (.interpret line)]
  have hnumber : g.session.number = 2 ∧ (g.interpret line).2.session.number = 3 ∧
      (g.interpret line).1 = .error .unknownCommand := by
    decide +kernel
  obtain ⟨entries, -, hchapters, hlast⟩ := hline line
  refine ⟨hfirst 2 (by decide) hnumber.1.ge, entries, ?_, ?_⟩
  · exact hnumber.1 ▸ hnumber.2.1 ▸ hchapters
  · exact hnumber.2.1 ▸ hlast _ hnumber.2.2

end GridRobot
